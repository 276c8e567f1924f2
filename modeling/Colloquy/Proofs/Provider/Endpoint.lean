import Colloquy.Proofs.Results
import Colloquy.Proofs.Url.Reading
import Colloquy.Provider.Ollama

/-!
# The server that an address names

A client sends all its requests to the server that its base address names.  The address keeps
no port that is the usual one of its scheme, so such a port is taken for none: where it is
written, the client uses its own default.  Every other port is used as it is written.
-/

namespace Colloquy
namespace Ollama

/-!
# Where requests go

All requests are recorded, and the server of each is read from its address.
-/

/-- The server of a request; without a port in the address it is the usual one of the scheme. -/
def target? (r : Http.Request) : Option Endpoint := do
  let host <- r.url.host?
  let port <- r.url.port? <|> (Url.SchemeKind.ofScheme r.url.scheme).usualPort?
  return ⟨r.url.scheme, host, port⟩

def recording (answer : List Http.Request -> Http.Request -> Option Http.Response) :
    Http.Transport (List Http.Request) :=
  fun sent r => (answer sent r, sent ++ [r])

/-- Each question makes one request, and it goes to the given server. -/
structure TalksTo (c : Ollama) (e : Endpoint) : Prop where
  complete : forall answer sent model context, exists r,
    (c.complete (recording answer) sent model context).2 = sent ++ [r] ∧ target? r = some e
  embed : forall answer sent texts, texts ≠ [] -> exists r,
    (c.embed (recording answer) sent texts).2 = sent ++ [r] ∧ target? r = some e

variable {c : Ollama} {e : Endpoint} {host : Url.Host} {s : Url.Site}

/-- A port that is left out as the usual one is still the one that is used. -/
theorem target?_url (e : Endpoint) (steps : List String) (body : Json) :
    target? { url := e.url steps, body := body } = some e := by
  by_cases husual : (Url.SchemeKind.ofScheme e.scheme).usualPort? = some e.port
  · simp [target?, Endpoint.url, Url.host?, Url.port?, husual]
  · simp [target?, Endpoint.url, Url.host?, Url.port?, husual]

theorem isReachable_url (h : e.scheme = "http" ∨ e.scheme = "https") (steps : List String) :
    Http.isReachable (e.url steps) = true := by
  simpa [Http.isReachable, Endpoint.url] using h

theorem post_snd (h : c.endpoint.scheme = "http" ∨ c.endpoint.scheme = "https")
    {answer : List Http.Request -> Http.Request -> Option Http.Response}
    {sent : List Http.Request} {subject name : String} {body : Json} {read : Json -> Option α} :
    (c.post (recording answer) sent subject name body read).2 =
      sent ++ [{ url := c.endpoint.url ["api", name], body := body }] := by
  unfold post
  simp only [isReachable_url h, recording]
  cases answer sent { url := c.endpoint.url ["api", name], body := body } with
  | none => rfl
  | some r =>
      cases hsuccess : r.isSuccess with
      | false => simp [hsuccess]
      | true => cases hread : (Json.ofBytes? r.body).bind read <;> simp [hsuccess, hread]

theorem embed_snd {send : Http.Transport τ} {t : τ} {texts : List String} (h : texts ≠ []) :
    (c.embed send t texts).2 = (c.post send t "Ollama embedding error" "embed"
      (.object [("model", .string c.embeddingModel), ("input", .array (texts.map Json.string))])
      vectors?).2 := by
  rw [embed, if_neg (by simpa using h)]
  dsimp only
  split
  · rfl
  · split
    · rfl
    · rfl

theorem talksTo (h : c.endpoint.scheme = "http" ∨ c.endpoint.scheme = "https") :
    c.TalksTo c.endpoint := by
  constructor
  · intro answer sent model context
    rw [complete]
    exact ⟨_, post_snd h, target?_url _ _ _⟩
  · intro answer sent texts hne
    rw [embed_snd hne]
    exact ⟨_, post_snd h, target?_url _ _ _⟩

/-!
# The server of a base address

Reading an address drops a port that is usual for the scheme, so afterwards it cannot be told
from one that was not written.
-/

theorem ofBase_text {usual : Nat}
    (hspecial : Url.SchemeKind.ofScheme s.scheme.toLower = .special usual)
    (hhost : Url.specialHost s.host.toList = .ok host)
    (hport : forall n, s.port = some n -> n <= 65535) (model embeddingModel : String) :
    ofBase s.text model embeddingModel = .ok
      ⟨⟨s.scheme.toLower, host, (s.port.filter (· != usual)).getD defaultPort⟩, model,
        embeddingModel⟩ := by
  rw [ofBase, Endpoint.ofBase, Url.Site.parse_text hspecial hhost hport]
  rfl

/-- A client talks to the host that its base address names, at the port that is written there
unless this is the usual one of the scheme.  In its place, and where no port is written, the
client uses its default port. -/
theorem written_port_is_used_unless_usual {s : Url.Site} {host : Url.Host}
    (hscheme : s.scheme.toLower = "http" ∨ s.scheme.toLower = "https")
    (hhost : Url.specialHost s.host.toList = .ok host)
    (hport : forall n, s.port = some n -> n <= 65535) (model embeddingModel : String) :
    exists c, ofBase s.text model embeddingModel = .ok c ∧
      c.model = model ∧ c.embeddingModel = embeddingModel ∧
      c.endpoint.scheme = s.scheme.toLower ∧ c.endpoint.host = host ∧
      c.endpoint.origin = s.scheme.toLower ++ "://" ++ host.text ∧
      (s.port = none -> c.endpoint.port = defaultPort) ∧
      (forall n, s.port = some n -> c.endpoint.port =
        if (Url.SchemeKind.ofScheme s.scheme.toLower).usualPort? = some n then defaultPort
        else n) ∧
      c.TalksTo c.endpoint := by
  have hspecial : exists usual, Url.SchemeKind.ofScheme s.scheme.toLower = .special usual := by
    rcases hscheme with h | h
    · exact ⟨80, by rw [h]; rfl⟩
    · exact ⟨443, by rw [h]; rfl⟩
  rcases hspecial with ⟨usual, hspecial⟩
  refine ⟨_, ofBase_text hspecial hhost hport model embeddingModel, rfl, rfl, rfl, rfl, rfl, ?_, ?_,
    talksTo hscheme⟩
  · intro hnone
    rw [hnone]
    rfl
  · intro n hsome
    rw [hspecial, hsome, Url.filter_some_ne]
    by_cases heq : n = usual
    · simp [Url.SchemeKind.usualPort?, heq]
    · simp [Url.SchemeKind.usualPort?, heq, Ne.symm heq]

/-- The usual port of another scheme, behind a name in capital letters. -/
theorem other_usual_port_is_used :
    Url.specialHost "Ollama.Example.com".toList = .ok (.domain "ollama.example.com") ∧
      exists c, ofBase "HTTPS://Ollama.Example.com:080/" "llama3.2" "nomic-embed-text" = .ok c ∧
        c.endpoint.scheme = "https" ∧ c.endpoint.host = .domain "ollama.example.com" ∧
        c.endpoint.origin = "https://ollama.example.com" ∧ c.endpoint.port = 80 ∧
        c.TalksTo c.endpoint := by
  have hhost : Url.specialHost "Ollama.Example.com".toList = .ok (.domain "ollama.example.com") :=
    eq_ok_of_toOption (by decide +kernel)
  let s : Url.Site := {
    scheme := "HTTPS", host := "Ollama.Example.com", port := some 80, zeros := 1, slash := true }
  have htext : s.text = "HTTPS://Ollama.Example.com:080/" := by decide +kernel
  have hlower : s.scheme.toLower = "https" := by decide +kernel
  have hport : forall n, s.port = some n -> n <= 65535 := by
    intro n hn
    cases hn
    decide
  rcases written_port_is_used_unless_usual (s := s) (Or.inr hlower) hhost hport "llama3.2"
    "nomic-embed-text" with
      ⟨c, hc, _, _, hscheme, hname, horigin, _, hused, htalks⟩
  have hnumber := hused 80 rfl
  rw [hlower] at hscheme horigin hnumber
  rw [htext] at hc
  exact ⟨hhost, c, hc, hscheme, hname, horigin.trans (by decide), hnumber, htalks⟩

/-- The usual port is written, but the requests go to another one. -/
theorem written_usual_port_is_not_used :
    exists c, ofBase "http://localhost:80" "llama3.2" "nomic-embed-text" = .ok c ∧
      c.endpoint = ⟨"http", .domain "localhost", 11434⟩ ∧
      (c.complete (recording fun _ _ => none) [] none []).2.map (fun r => r.url.text) =
        ["http://localhost:11434/api/chat"] := by
  refine ⟨⟨⟨"http", .domain "localhost", 11434⟩, "llama3.2", "nomic-embed-text"⟩, ?_, rfl, ?_⟩
  · exact eq_ok_of_toOption (by decide +kernel)
  · decide +kernel

end Ollama
end Colloquy

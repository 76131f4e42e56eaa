import PointSum.Proofs.Text.Utf8
import PointSum.Proofs.Toml.Scanner
import PointSum.Settings.Resolve

/-!
# Settings as they are written

* `Form` : the four ways to write the setting `numeric`; `Form.document` : the document with nothing in it but a text
  as the setting, between double quotes;
* `tokens?_document`, `read?_document` : the tokens and the tree of such a document, `ofTable?_root` : the
  configuration in it;
* `setting_readsBack` : whatever the text is, it is the setting that the file gives, without a warning.
-/

namespace PointSum.Settings

set_option autoImplicit false

open Text Toml

variable {cs : List Char} {t : Table Value} {c : Config}

/-! ## Configurations and their modes -/

theorem config_of_read? (ht : Toml.read? cs = some t) (hc : Config.ofTable? t = some c) (home : String) :
    (ConfigFile.file (encode cs)).config home = (some c, []) := by
  have hread : Config.read cs = .ok c := by
    rw [Config.read, ht, Option.bind_some, hc]
  simp only [ConfigFile.config, ConfigFile.load, decode?_encode, hread]
  rfl

theorem modeOfConfig_fst (config : Option Config) :
    (modeOfConfig config).1 = (config.bind Config.numeric?).bind fun raw => Mode.ofText? raw.toList := by
  unfold modeOfConfig
  cases config.bind Config.numeric? with
  | none => rfl
  | some raw =>
    cases hm : Mode.ofText? raw.toList <;> simp [hm]

/-! ## The forms of the setting -/

/-- A way to write the setting. -/
inductive Form where
  /-- The key `numeric` below the header of its section. -/
  | header
  /-- The dotted key `app.numeric`. -/
  | dottedKey
  /-- The key in a section in braces. -/
  | braces
  /-- The first item of a section written as an array. -/
  | array

/-- The document up to the setting. -/
def Form.before : Form → List Char
  | header => "[app]\nnumeric = ".toList
  | dottedKey => "app.numeric = ".toList
  | braces => "app = \x7b numeric = ".toList
  | array => "app = [".toList

/-- The document behind the setting. -/
def Form.after : Form → List Char
  | header => "\n".toList
  | dottedKey => "\n".toList
  | braces => " \x7d\n".toList
  | array => "]\n".toList

/-- The document whose only setting is the text. -/
def Form.document (form : Form) (capital : Bool) (cs : List Char) : List Char :=
  form.before ++ basicText capital cs ++ form.after

/-- The section in the tree of the document. -/
def Form.sectionOf (s : String) : Form → Value
  | header => .table ⟨.declared, [("numeric", .text s)]⟩
  | dottedKey => .table ⟨.dotted, [("numeric", .text s)]⟩
  | braces => .table ⟨.inline, [("numeric", .text s)]⟩
  | array => .array [.text s]

/-- The tree of the document. -/
def Form.root (form : Form) (s : String) : Table Value :=
  ⟨.declared, [("app", form.sectionOf s)]⟩

/-! ## Reading the forms -/

/-- The tokens up to the setting. -/
def Form.tokensBefore : Form → List Token
  | header =>
    [.openBracket, .word "app".toList, .closeBracket, .newline, .word "numeric".toList, .blank, .equals, .blank]
  | dottedKey => [.word "app".toList, .dot, .word "numeric".toList, .blank, .equals, .blank]
  | braces =>
    [.word "app".toList, .blank, .equals, .blank, .openBrace, .blank, .word "numeric".toList, .blank, .equals, .blank]
  | array => [.word "app".toList, .blank, .equals, .blank, .openBracket]

/-- The tokens behind the setting. -/
def Form.tokensAfter : Form → List Token
  | header => [.newline]
  | dottedKey => [.newline]
  | braces => [.blank, .closeBrace, .newline]
  | array => [.closeBracket, .newline]

theorem tokens?_document (form : Form) (capital : Bool) (cs : List Char) :
    tokens? (form.document capital cs) = some (form.tokensBefore ++ .text cs false :: form.tokensAfter) := by
  have hbefore : Scanner.outside.steps form.before = some (form.tokensBefore, .outside) := by
    cases form <;> rfl
  have hafter : Scanner.outside.scan form.after = some form.tokensAfter := by
    cases form <;> rfl
  have hreturn : '\r' ∉ form.before ++ form.after := by
    cases form <;> decide
  have hmark : form.before.head? ≠ some byteOrderMark := by
    cases form <;> decide
  have hquote : form.after.head? ≠ some '"' := by
    cases form <;> decide
  exact tokens?_basicText capital cs hbefore hafter hreturn hmark hquote

theorem read?_document (form : Form) (capital : Bool) (cs : List Char) :
    Toml.read? (form.document capital cs) = some (form.root (.ofList cs)) := by
  rw [Toml.read?, tokens?_document]
  cases form with
  | header => rfl
  | dottedKey => rfl
  | braces => rfl
  | array => rfl

theorem ofTable?_root (form : Form) (s : String) : Config.ofTable? (form.root s) = some ⟨some ⟨some s⟩⟩ := by
  cases form with
  | header => rfl
  | dottedKey => rfl
  | braces => rfl
  | array => rfl

/-- Every text can be a setting, in every form: the file gives a configuration with exactly this text, and no
warning. The mode that the configuration asks for is the one that the text names. -/
theorem setting_readsBack (form : Form) (capital : Bool) (s home : String) :
    (ConfigFile.file (encode (form.document capital s.toList))).config home = (some ⟨some ⟨some s⟩⟩, []) ∧
      (modeOfConfig (some ⟨some ⟨some s⟩⟩)).1 = Mode.ofText? s.toList := by
  have hroot := read?_document form capital s.toList
  rw [String.ofList_toList] at hroot
  refine ⟨config_of_read? hroot (ofTable?_root form s) home, ?_⟩
  rw [modeOfConfig_fst]
  rfl

example : (ConfigFile.file (encode "app = \x7b numeric = \"a\\\"\\u001Fé\" \x7d\n".toList)).config "/home" =
    (some ⟨some ⟨some "a\"\x1fé"⟩⟩, []) := by decide +kernel

end PointSum.Settings

import PointSum.Proofs.Settings.Refusal
import PointSum.Proofs.Toml.Begun
import PointSum.Proofs.Toml.Plain
import PointSum.Proofs.Toml.TextLiteral

/-!
# Settings of the wrong kind

A value that is not a text is never taken for a setting that is missing.

* `Kind.Writes k cs` : the text is a value of the kind; `Kind.exists_token` : how it begins;
* `Spot` : the places at which the setting, the section, or its first item is written; `Spot.exists_holds` : whatever
  the document goes on with, what stands there is decided by its first token;
* `Spot.text_of_ofTable?`, `Spot.not_ofTable?_section` : what a configuration says about the value there;
* `wrongKind_refused` : a file with a value of another kind there is refused, and one that is not has the text there.
-/

namespace PointSum.Settings

set_option autoImplicit false

open Number (isDigit)
open Text Toml

variable {cs rest v : List Char} {s home : String} {root : Table Value} {w : Value} {c : Config} {token : Token}
  {ts us : List Token}

/-! ## Kinds of values -/

/-- The kinds of values. -/
inductive Kind where
  | integer
  | float
  | boolean
  | moment
  | text
  | array
  | table
  deriving DecidableEq, Repr

/-- The text is a value of the kind. Of a date or a time, an array, and a table in braces only the beginning is
asked for, so that more texts count as one than can be read. -/
def Kind.Writes : Kind → List Char → Prop
  | integer, v => IntegerLiteral v
  | float, v => FloatLiteral v
  | boolean, v => BooleanLiteral v
  | moment, v => ∃ c cs, v = c :: cs ∧ isDigit c
  | text, v => ∃ s, TextLiteral v s
  | array, v => ∃ cs, v = '[' :: cs
  | table, v => ∃ cs, v = '\x7b' :: cs

/-- The token begins a value that is not a text. -/
def BeginsOther : Token → Prop
  | .word _ => True
  | .openBracket => True
  | .openBrace => True
  | _ => False

theorem BeginsOther.beginsValue (h : BeginsOther token) : token.BeginsValue := by
  cases token with
  | word cs => trivial
  | openBracket => trivial
  | openBrace => trivial
  | _ => cases h

theorem BeginsOther.not_isText (h : BeginsOther token) (hw : token.Begins w) : ¬ w.IsText := by
  cases token with
  | word cs => exact hw.2
  | openBracket => exact hw.2
  | openBrace => exact hw.2
  | _ => cases h

theorem exists_word_of_wordStart {d : Char} (hd : isWordStart d) (h : Scanner.outside.scan (d :: cs) = some ts) :
    ∃ token us, ts = token :: us ∧ BeginsOther token := by
  rw [Scanner.scan_of_step (Scanner.step_outside_of_wordStart hd)] at h
  obtain ⟨w, us, rfl⟩ := Scanner.exists_word_of_scan h
  exact ⟨.word w, us, rfl, trivial⟩

theorem exists_punctuation (token : Token) {d : Char} (hd : Scanner.outside.step d = some ([token], .outside))
    (htoken : BeginsOther token) (h : Scanner.outside.scan (d :: cs) = some ts) :
    ∃ token us, ts = token :: us ∧ BeginsOther token := by
  rw [Scanner.scan_cons hd] at h
  obtain ⟨us, -, rfl⟩ := Option.map_eq_some_iff.1 h
  exact ⟨token, us, rfl, htoken⟩

/-- A value that is not a text does not begin as one. -/
theorem Kind.exists_token {k : Kind} (hk : k ≠ .text) (h : k.Writes v)
    (hscan : Scanner.outside.scan (v ++ rest) = some ts) : ∃ token us, ts = token :: us ∧ BeginsOther token := by
  have hplain : IsPlain v → ∃ token us, ts = token :: us ∧ BeginsOther token := by
    intro hv
    obtain ⟨d, ds, rfl, hd⟩ := hv.head
    exact exists_word_of_wordStart hd hscan
  cases k with
  | integer => exact hplain (IntegerLiteral.isPlain h)
  | float => exact hplain (FloatLiteral.isPlain h)
  | boolean => exact hplain (BooleanLiteral.isPlain h)
  | moment =>
    obtain ⟨d, ds, rfl, hd⟩ := h
    exact exists_word_of_wordStart (isWordStart_of_isDigit hd) hscan
  | text => exact absurd rfl hk
  | array =>
    obtain ⟨ds, rfl⟩ := h
    exact exists_punctuation .openBracket rfl trivial hscan
  | table =>
    obtain ⟨ds, rfl⟩ := h
    exact exists_punctuation .openBrace rfl trivial hscan

/-! ## Where a value stands -/

/-- A place in a document at which a value decides the configuration. -/
inductive Spot where
  /-- The setting, below the header of the section. -/
  | setting
  /-- The section. -/
  | whole
  /-- The first item of a section written as an array. -/
  | item
  deriving DecidableEq, Repr

namespace Spot

/-- The document up to the value. -/
def before : Spot → List Char
  | setting => "[app]\nnumeric = ".toList
  | whole => "app = ".toList
  | item => "app = [".toList

/-- The tokens up to the value. -/
def tokensBefore : Spot → List Token
  | setting =>
    [.openBracket, .word "app".toList, .closeBracket, .newline, .word "numeric".toList, .blank, .equals, .blank]
  | whole => [.word "app".toList, .blank, .equals, .blank]
  | item => [.word "app".toList, .blank, .equals, .blank, .openBracket]

/-- The state of reading before the value. -/
def reader : Spot → Reader
  | setting => ⟨⟨⟨.declared, [("app", .table ⟨.declared, []⟩)]⟩, ["app"]⟩, [.entry ["numeric"]], .value⟩
  | whole => ⟨.empty, [.entry ["app"]], .value⟩
  | item => ⟨.empty, [.array [], .entry ["app"]], .item⟩

/-- The tree of a document has the value there. -/
def Holds : Spot → Value → Table Value → Prop
  | setting, w, root => root.At ["app", "numeric"] w
  | whole, w, root => root.At ["app"] w
  | item, w, root => ∃ items, root.At ["app"] (.array (w :: items))

variable {spot : Spot}

theorem steps_before (spot : Spot) : Scanner.outside.steps spot.before = some (spot.tokensBefore, .outside) := by
  cases spot <;> rfl

theorem steps_tokensBefore (spot : Spot) : Reader.start.steps spot.tokensBefore = some spot.reader := by
  cases spot <;> rfl

theorem exists_of_read? (h : Toml.read? (spot.before ++ rest) = some root) :
    ∃ us r d, Scanner.outside.scan rest = some us ∧ spot.reader.steps us = some r ∧ r.finish = some d ∧
      d.root = root := by
  apply exists_of_read?_append (steps_before spot) (steps_tokensBefore spot) _ _ h
  · cases spot <;> decide
  · cases spot <;> decide

theorem ordered_reader (spot : Spot) : spot.reader.Ordered := by
  cases spot with
  | setting => exact ⟨False.elim, rfl⟩
  | whole => exact ⟨False.elim, rfl⟩
  | item => exact ⟨False.elim, rfl⟩

/-- A value that is completed there is there at the end. -/
theorem holds_of_complete {q f : Reader} (hw : w.IsFrozen) (h : spot.reader.complete w = some q) (hleads : q.Leads f)
    (hend : f.place.OnLine) : spot.Holds w f.document.root := by
  have hkeeps := Reader.Leads.keeps hleads
  cases spot with
  | setting =>
    cases h
    exact hkeeps ["app", "numeric"] w hw ⟨_, rfl, rfl⟩
  | whole =>
    cases h
    exact hkeeps ["app"] w hw rfl
  | item =>
    -- The value is the first item, and remains it until the array is closed.
    cases h
    have hover : whole.reader.Over (fun c => ∃ items, c = .array items ∧ items.getLast? = some w)
        ⟨.empty, [.array [w], .entry ["app"]], .separator⟩ := ⟨rfl, [], .array [w], rfl, [w], rfl, rfl⟩
    obtain ⟨a, p, ⟨items, rfl⟩, hp, hleads⟩ :=
      hover.exists_complete (Reader.grows_array w) ⟨False.elim, rfl⟩ hleads hend
    cases hp
    exact ⟨items, hleads.keeps ["app"] (.array (w :: items)) trivial rfl⟩

/-- What stands there is decided by its first token, whatever the document goes on with. -/
theorem exists_holds (h : Toml.read? (spot.before ++ rest) = some root)
    (hscan : Scanner.outside.scan rest = some (token :: us)) (htoken : token.BeginsValue) :
    ∃ w, token.Begins w ∧ spot.Holds w root := by
  obtain ⟨us', r, d, hus, hr, hd, rfl⟩ := exists_of_read? h
  obtain rfl := Option.some.inj (hscan.symm.trans hus)
  have hplace : spot.reader.place = .value ∨ spot.reader.place = .item := by
    cases spot <;> decide
  obtain ⟨w, q, f, hw, hcomplete, hleads, hend, rfl⟩ :=
    Reader.exists_complete_of_steps (ordered_reader spot) hplace htoken hr hd
  exact ⟨w, hw, holds_of_complete hw.isFrozen hcomplete hleads hend⟩

/-- A plain text on the line of the section is the section. -/
theorem exists_holds_plain (hv : IsPlain v) (h : Toml.read? (whole.before ++ (v ++ '\n' :: rest)) = some root) :
    ∃ w, Value.ofWord? v = some w ∧ whole.Holds w root := by
  obtain ⟨us, r, d, hus, hr, hd, rfl⟩ := exists_of_read? h
  obtain ⟨f, hleads, hend, rfl⟩ := Reader.leads_finish hd
  obtain ⟨w, q, hw, hcomplete, hq⟩ := Reader.exists_complete_of_plain (r := whole.reader) rfl hv hus hr
  exact ⟨w, hw, holds_of_complete (isFrozen_ofWord? hw).1 hcomplete (hq.trans hleads) hend⟩

/-! ## Configurations -/

theorem exists_section {a : Value} (h : root.At ["app"] a) (hc : Config.ofTable? root = some c) :
    ∃ sec, Section.ofValue? a = some sec ∧ c = ⟨some sec⟩ := by
  have hget : root.get? "app" = some a := h
  unfold Config.ofTable? at hc
  rw [hget] at hc
  obtain ⟨-, hc⟩ := Option.ite_none_right_eq_some.1 hc
  obtain ⟨sec, hsec, rfl⟩ := Option.map_eq_some_iff.1 hc
  exact ⟨sec, hsec, rfl⟩

/-- As the setting and as the first item only a text is taken, and it is the setting. -/
theorem text_of_ofTable? (hspot : spot ≠ .whole) (h : spot.Holds w root) (hc : Config.ofTable? root = some c) :
    ∃ s, w = .text s ∧ c = ⟨some ⟨some s⟩⟩ := by
  cases spot with
  | setting =>
    obtain ⟨t, hget, hnumeric⟩ := h
    obtain ⟨sec, hsec, rfl⟩ := exists_section hget hc
    have hget : t.get? "numeric" = some w := hnumeric
    have hsec : Section.ofTable? t = some sec := hsec
    unfold Section.ofTable? at hsec
    rw [hget] at hsec
    obtain ⟨-, hsec⟩ := Option.ite_none_right_eq_some.1 hsec
    obtain ⟨s, hs, rfl⟩ := Option.map_eq_some_iff.1 hsec
    exact ⟨s, textOf?_eq_some_iff.1 hs, rfl⟩
  | whole => exact absurd rfl hspot
  | item =>
    obtain ⟨items, hget⟩ := h
    obtain ⟨sec, hsec, rfl⟩ := exists_section hget hc
    obtain ⟨s, hs, rfl⟩ := Option.map_eq_some_iff.1 hsec
    exact ⟨s, textOf?_eq_some_iff.1 hs, rfl⟩

/-- As the section no number, no truth value and no text is taken. -/
theorem ofTable?_eq_none (h : whole.Holds w root) (hw : w.IsText ∨ (∃ b, w = .boolean b) ∨ ∃ n, w = .number n) :
    Config.ofTable? root = none := by
  rw [Option.eq_none_iff_forall_ne_some]
  intro c hc
  obtain ⟨sec, hsec, -⟩ := exists_section h hc
  rcases hw with htext | ⟨b, rfl⟩ | ⟨n, rfl⟩
  · cases w with
    | text s => cases hsec
    | _ => cases htext
  · cases hsec
  · cases hsec

end Spot

/-! ## Refused files -/

open Spot

variable {k : Kind}

theorem refused_of_kind (spot : Spot) (hspot : spot ≠ .whole) (hk : k ≠ .text) (h : k.Writes v)
    (rest : List Char) (home : String) : Refused home (.file (encode (spot.before ++ (v ++ rest)))) := by
  apply refused_of_ofTable?
  intro root hroot
  rw [Option.eq_none_iff_forall_ne_some]
  intro c hc
  obtain ⟨us, -, -, hus, -⟩ := exists_of_read? hroot
  obtain ⟨token, us, rfl, htoken⟩ := k.exists_token hk h hus
  obtain ⟨w, hw, hholds⟩ := exists_holds hroot hus htoken.beginsValue
  obtain ⟨s, rfl, -⟩ := text_of_ofTable? hspot hholds hc
  exact htoken.not_isText hw trivial

theorem refused_whole_plain (hv : IsPlain v) (hmoment : ¬ isMoment v) (rest : List Char) (home : String) :
    Refused home (.file (encode (whole.before ++ (v ++ '\n' :: rest)))) := by
  apply refused_of_ofTable?
  intro root hroot
  obtain ⟨w, hw, hholds⟩ := exists_holds_plain hv hroot
  apply ofTable?_eq_none hholds
  rcases ofWord?_cases hw with hboolean | hnumber | ⟨m, -, hm⟩
  · exact .inr (.inl hboolean)
  · exact .inr (.inr hnumber)
  · exact absurd hm hmoment

theorem exists_text_token {ds : List Char} (h : TextLiteral v ds) (hrest : ∀ q : Quote, rest.head? ≠ some q.mark)
    (hscan : Scanner.outside.scan (v ++ rest) = some ts) : ∃ multiline us, ts = .text ds multiline :: us := by
  obtain ⟨multiline, heq⟩ := h.scan hrest
  rw [heq] at hscan
  obtain ⟨us, -, rfl⟩ := Option.map_eq_some_iff.1 hscan
  exact ⟨multiline, us, rfl⟩

theorem refused_whole_text {ds : List Char} (h : TextLiteral v ds) (hrest : ∀ q : Quote, rest.head? ≠ some q.mark)
    (home : String) : Refused home (.file (encode (whole.before ++ (v ++ rest)))) := by
  apply refused_of_ofTable?
  intro root hroot
  obtain ⟨us, -, -, hus, -⟩ := exists_of_read? hroot
  obtain ⟨multiline, us, rfl⟩ := exists_text_token h hrest hus
  obtain ⟨w, rfl, hholds⟩ := exists_holds hroot hus trivial
  exact ofTable?_eq_none hholds (.inl trivial)

/-- An array without items is no section. -/
theorem refused_empty (rest : List Char) (home : String) :
    Refused home (.file (encode ("app = []".toList ++ rest))) := by
  apply refused_of_ofTable?
  intro root hroot
  rw [Option.eq_none_iff_forall_ne_some]
  intro c hc
  have hscan : Scanner.outside.steps "app = []".toList = some (item.tokensBefore ++ [.closeBracket], .outside) := rfl
  have hsteps : Reader.start.steps (item.tokensBefore ++ [.closeBracket]) =
      some ⟨⟨⟨.declared, [("app", .array [])]⟩, []⟩, [], .lineEnd⟩ := rfl
  obtain ⟨us, r, d, -, hr, hd, rfl⟩ := exists_of_read?_append hscan hsteps (by decide) (by decide) hroot
  obtain ⟨f, hleads, -, rfl⟩ := Reader.leads_finish hd
  have hat : f.document.root.At ["app"] (.array []) :=
    Reader.Leads.keeps ((Reader.leads_steps hr).trans hleads) ["app"] (.array []) trivial rfl
  obtain ⟨sec, hsec, -⟩ := exists_section hat hc
  cases hsec

/-- A configuration with a value of any kind there has the text there as the setting. -/
theorem text_of_config (spot : Spot) (hspot : spot ≠ .whole) (h : k.Writes v)
    (hrest : ∀ q : Quote, rest.head? ≠ some q.mark)
    (hc : ((ConfigFile.file (encode (spot.before ++ (v ++ rest)))).config home).1 = some c) :
    k = .text ∧ ∀ ds, TextLiteral v ds → c = ⟨some ⟨some (.ofList ds)⟩⟩ := by
  constructor
  · by_contra hk
    obtain ⟨⟨r, hr, -⟩, -⟩ := refused_of_kind spot hspot hk h rest home
    rw [hr] at hc
    cases hc
  · intro ds hds
    obtain ⟨cs, root, hcs, hroot, hc⟩ := exists_of_config hc
    obtain rfl := encode_injective hcs
    obtain ⟨us, -, -, hus, -⟩ := exists_of_read? hroot
    obtain ⟨multiline, us, rfl⟩ := exists_text_token hds hrest hus
    obtain ⟨w, rfl, hholds⟩ := exists_holds hroot hus trivial
    obtain ⟨s, hs, rfl⟩ := text_of_ofTable? hspot hholds hc
    cases hs
    rfl

/-- A value that is not a text is refused as the setting and as the first item of a section that is an array; a number,
a truth value or a text is refused as the section, and so is an array without items. A file that gives a configuration
with a value as the setting or as the first item gives the text that is written there. All this is so whatever follows
in the file. -/
theorem wrongKind_refused (home : String) {k : Kind} {v : List Char} (h : k.Writes v) (rest : List Char) :
    (k ≠ .text → Refused home (.file (encode ("[app]\nnumeric = ".toList ++ (v ++ '\n' :: rest))))) ∧
    (k ∈ [.integer, .float, .boolean, .text] →
      Refused home (.file (encode ("app = ".toList ++ (v ++ '\n' :: rest))))) ∧
    (k ≠ .text → Refused home (.file (encode ("app = [".toList ++ (v ++ rest))))) ∧
    Refused home (.file (encode ("app = []".toList ++ rest))) ∧
    (∀ c, ((ConfigFile.file (encode ("[app]\nnumeric = ".toList ++ (v ++ '\n' :: rest)))).config home).1 = some c →
      k = .text ∧ ∀ ds, TextLiteral v ds → c = ⟨some ⟨some (.ofList ds)⟩⟩) ∧
    ((∀ q : Quote, rest.head? ≠ some q.mark) →
      ∀ c, ((ConfigFile.file (encode ("app = [".toList ++ (v ++ rest)))).config home).1 = some c →
        k = .text ∧ ∀ ds, TextLiteral v ds → c = ⟨some ⟨some (.ofList ds)⟩⟩) := by
  have hnewline : ∀ q : Quote, ('\n' :: rest).head? ≠ some q.mark := by
    intro q hq
    cases q <;> cases hq
  refine ⟨fun hk => ?_, fun hk => ?_, fun hk => ?_, refused_empty rest home, fun c hc => ?_, fun hrest c hc => ?_⟩
  · exact refused_of_kind .setting (by decide) hk h ('\n' :: rest) home
  · cases k with
    | integer => exact refused_whole_plain (IntegerLiteral.isPlain h) (IntegerLiteral.not_isMoment h) rest home
    | float => exact refused_whole_plain (FloatLiteral.isPlain h) (FloatLiteral.not_isMoment h) rest home
    | boolean => exact refused_whole_plain (BooleanLiteral.isPlain h) (BooleanLiteral.not_isMoment h) rest home
    | text =>
      obtain ⟨ds, hds⟩ := h
      exact refused_whole_text hds hnewline home
    | _ => exact absurd hk (by decide)
  · exact refused_of_kind .item (by decide) hk h rest home
  · exact text_of_config .setting (by decide) h hnewline hc
  · exact text_of_config .item (by decide) h hrest hc

/-- An integer in base two as the setting, and a text as the first item and as the section. -/
theorem wrongKind_refused_samples :
    (Kind.integer.Writes "0b1_0".toList ∧
      Refused "/home" (.file (encode ("[app]\nnumeric = ".toList ++ ("0b1_0".toList ++ '\n' :: []))))) ∧
    Kind.text.Writes "'float'".toList ∧
    Refused "/home" (.file (encode ("app = ".toList ++ ("'float'".toList ++ '\n' :: ", 1]\n".toList)))) ∧
    ((ConfigFile.file (encode ("app = [".toList ++ ("'float'".toList ++ ", 1]\n".toList)))).config "/home").1 =
      some ⟨some ⟨some "float"⟩⟩ ∧
    ∀ ds, TextLiteral "'float'".toList ds → (⟨some ⟨some "float"⟩⟩ : Config) = ⟨some ⟨some (.ofList ds)⟩⟩ := by
  have hdigits : Grouped (isDigitOf 2) "1_0".toList := .mark rfl (.single rfl)
  have hinteger : Kind.integer.Writes "0b1_0".toList := .based rfl hdigits
  have hfloat : LineText .literal "float".toList "float".toList := lineText_literal rfl
  have htext : Kind.text.Writes "'float'".toList := ⟨"float".toList, .line hfloat⟩
  have hsetting : ((ConfigFile.file (encode ("app = [".toList ++ ("'float'".toList ++ ", 1]\n".toList)))).config
      "/home").1 = some ⟨some ⟨some "float"⟩⟩ := by decide +kernel
  have hquote : ∀ q : Quote, ", 1]\n".toList.head? ≠ some q.mark := by
    intro q hq
    cases q <;> cases hq
  refine ⟨⟨hinteger, ?_⟩, htext, ?_, hsetting, ?_⟩
  · exact (wrongKind_refused "/home" hinteger []).1 (by decide)
  · exact (wrongKind_refused "/home" htext ", 1]\n".toList).2.1 (by decide)
  · exact ((wrongKind_refused "/home" htext ", 1]\n".toList).2.2.2.2.2 hquote _ hsetting).2

end PointSum.Settings

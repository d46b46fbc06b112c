import Mathlib.Data.Bool.AllAny
import SourceOutline.Graph.JsonReader
import SourceOutline.Proofs.Text.Decimal

set_option autoImplicit false

/-! # A JSON text can be read back

A JSON text of a graph is read back to the value it was written for, whatever its texts hold and
however it is laid out. Each part of the text moves the reader by itself: where a value may come,
the text of a value brings the reader to the place after that value, with the same things open
(`JsonReading.read_render`). A word is known to be complete only by the character after it, so what
follows a value must not go on with a word (`EndsWord`); what is written after a value never does.

A character is written by escapes that stand for it and for nothing else, so strings are read back
(`jsonText?_flatMap_escapeJson`), and from the value all nodes and edges are found again. Apart from
the marks nothing is written but characters below 128 (`isAscii_render`). -/

namespace SourceOutline

/-! ## Characters -/

theorem toNat_of_plain {c : Char} (h : (' ' ≤ c && c ≤ '~') = true) :
    0x20 ≤ c.toNat ∧ c.toNat < 0x7F := by
  rw [Bool.and_eq_true, decide_eq_true_eq, decide_eq_true_eq, Char.le_def, Char.le_def,
    UInt32.le_iff_toNat_le, UInt32.le_iff_toNat_le] at h
  have htilde : '~'.val.toNat = 0x7E := rfl
  have hspace : ' '.val.toNat = 0x20 := rfl
  have hc : c.toNat = c.val.toNat := rfl
  omega

theorem toNat_lt_or_le (c : Char) : c.toNat < 0xD800 ∨ 0xE000 ≤ c.toNat ∧ c.toNat < 0x110000 := by
  have hvalid := c.valid
  have hc : c.toNat = c.val.toNat := rfl
  simp only [UInt32.isValidChar, Nat.isValidChar] at hvalid
  omega

/-- How a character is written: by a letter of its own, as it is, by its code point, or by two
    surrogates. -/
inductive IsEscaped (c : Char) : List Char → Prop
  | letter {letter : Char} (hletter : letter ≠ 'u') (hshort : jsonShortEscape? letter = some c) :
      IsEscaped c ['\\', letter]
  | plain (hlow : 0x20 ≤ c.toNat) (hhigh : c.toNat < 0x7F) (hquote : c ≠ '"')
      (hbackslash : c ≠ '\\') : IsEscaped c [c]
  | unit (hsmall : c.toNat < 0x10000) : IsEscaped c (escapeUnit c.toNat)
  | pair {n : Nat} (hlarge : c.toNat = 0x10000 + n) :
      IsEscaped c (escapeUnit (0xD800 + n / 0x400) ++ escapeUnit (0xDC00 + n % 0x400))

theorem isEscaped_escapeJson (c : Char) : IsEscaped c (escapeJson c) := by
  have hletter : ∀ {letter : Char}, letter ≠ 'u' → jsonShortEscape? letter = some c →
      IsEscaped c ['\\', letter] := .letter
  unfold escapeJson
  split
  case isTrue h => exact hletter (by decide) (by rw [h]; rfl)
  case isFalse hquote =>
  split
  case isTrue h => exact hletter (by decide) (by rw [h]; rfl)
  case isFalse hbackslash =>
  split
  case isTrue h => exact hletter (by decide) (by rw [h]; rfl)
  case isFalse =>
  split
  case isTrue h => exact hletter (by decide) (by rw [h]; rfl)
  case isFalse =>
  split
  case isTrue h => exact hletter (by decide) (by rw [h]; rfl)
  case isFalse =>
  split
  case isTrue h => exact hletter (by decide) (by rw [h]; rfl)
  case isFalse =>
  split
  case isTrue h => exact hletter (by decide) (by rw [h]; rfl)
  case isFalse =>
  split
  case isTrue hplain =>
    obtain ⟨hlow, hhigh⟩ := toNat_of_plain hplain
    exact .plain hlow hhigh hquote hbackslash
  case isFalse =>
  split
  case isTrue hsmall => exact .unit hsmall
  case isFalse hlarge => exact .pair (by omega)

/-! ## Strings -/

theorem jsonText?_letter {letter c : Char} (hletter : letter ≠ 'u')
    (hshort : jsonShortEscape? letter = some c) (rest : List Char) :
    jsonText? ('\\' :: letter :: rest) = (jsonText? rest).map (c :: ·) := by
  rw [jsonText?, hshort]
  · cases jsonText? rest <;> rfl
  · intro a b d e others hu _
    exact hletter hu

theorem hexNumber?_hexDigits_four {n : Nat} (h : n < 0x10000) :
    hexNumber? (hexDigits 4 n) = some n :=
  hexNumber?_hexDigits h

theorem jsonText?_escapeUnit_append {n : Nat} (h : n < 0x10000) (hplain : n < 0xD800 ∨ 0xE000 ≤ n)
    (rest : List Char) :
    jsonText? (escapeUnit n ++ rest) = (jsonText? rest).map (Char.ofNat n :: ·) := by
  have hread := hexNumber?_hexDigits_four h
  obtain ⟨a, b, c, d, hdigits⟩ : ∃ a b c d, hexDigits 4 n = [a, b, c, d] := ⟨_, _, _, _, rfl⟩
  rw [hdigits] at hread
  have hunit : (n < 0xD800 || 0xE000 ≤ n) = true := by simpa using hplain
  simp only [escapeUnit, hdigits, List.cons_append, List.nil_append, jsonText?, hread, hunit,
    if_true, bind, Option.bind]
  cases jsonText? rest <;> rfl

theorem jsonText?_surrogates_append {n : Nat} (h : n < 0x100000) (rest : List Char) :
    jsonText? (escapeUnit (0xD800 + n / 0x400) ++ escapeUnit (0xDC00 + n % 0x400) ++ rest)
      = (jsonText? rest).map (Char.ofNat (0x10000 + n) :: ·) := by
  generalize hhighUnit : 0xD800 + n / 0x400 = high
  generalize hlowUnit : 0xDC00 + n % 0x400 = low
  have hhigh := hexNumber?_hexDigits_four (show high < 0x10000 by omega)
  have hlow := hexNumber?_hexDigits_four (show low < 0x10000 by omega)
  obtain ⟨a, b, c, d, hdigits⟩ : ∃ a b c d, hexDigits 4 high = [a, b, c, d] := ⟨_, _, _, _, rfl⟩
  obtain ⟨e, f, g, i, hdigits'⟩ : ∃ e f g i, hexDigits 4 low = [e, f, g, i] := ⟨_, _, _, _, rfl⟩
  rw [hdigits] at hhigh
  rw [hdigits'] at hlow
  have hsurrogate : (high < 0xD800 || 0xE000 ≤ high) = false := by
    simp only [Bool.or_eq_false_iff, decide_eq_false_iff_not]
    omega
  have hpair : surrogatePair? high low = some (Char.ofNat (0x10000 + n)) := by
    have hsum : 0x10000 + (high - 0xD800) * 0x400 + (low - 0xDC00) = 0x10000 + n := by omega
    rw [surrogatePair?, if_pos ⟨by omega, by omega, by omega, by omega⟩, hsum]
  simp only [escapeUnit, hdigits, hdigits', List.cons_append, List.nil_append, jsonText?, hhigh,
    hsurrogate, hlow, hpair, Bool.false_eq_true, if_false, bind, Option.bind]
  cases jsonText? rest <;> rfl

theorem jsonText?_escapeJson_append (c : Char) (rest : List Char) :
    jsonText? (escapeJson c ++ rest) = (jsonText? rest).map (c :: ·) := by
  have hbound := toNat_lt_or_le c
  have hescaped := isEscaped_escapeJson c
  generalize escapeJson c = written at hescaped ⊢
  cases hescaped with
  | letter hletter hshort => exact jsonText?_letter hletter hshort rest
  | plain hlow hhigh hquote hbackslash =>
    have hplain : ¬ c.toNat < 0x20 := by omega
    cases hrest : jsonText? rest <;> simp [jsonText?, hbackslash, hplain, hrest]
  | unit hsmall =>
    rw [jsonText?_escapeUnit_append hsmall (hbound.imp_right And.left), Char.ofNat_toNat]
  | @pair n hlarge =>
    rw [jsonText?_surrogates_append (by omega), ← hlarge, Char.ofNat_toNat]

/-- The body that is written for a text is read as the text. -/
theorem jsonText?_flatMap_escapeJson (text : List Char) :
    jsonText? (text.flatMap escapeJson) = some text := by
  induction text with
  | nil => rfl
  | cons c rest ih => rw [List.flatMap_cons, jsonText?_escapeJson_append, ih, Option.map_some]

/-! ## Numbers -/

theorem jsonWhole?_toDigits (n : Nat) : jsonWhole? (Nat.toDigits 10 n) = some n := by
  have hzero : ¬ ((Nat.toDigits 10 n).head? = some '0' ∧ Nat.toDigits 10 n ≠ ['0']) :=
    fun h => h.2 (toDigits_eq_of_head? h.1)
  have hdigits : (Nat.toDigits 10 n).all Char.isDigit = true :=
    List.all_eq_true.2 fun _ => isDigit_of_mem_toDigits
  rw [jsonWhole?, if_neg hzero, jsonDigits?, if_pos ⟨hdigits, Nat.toDigits_ne_nil⟩,
    Nat.ofDigitChars_ten_toDigits]

theorem jsonMagnitude?_toDigits (n : Nat) :
    jsonMagnitude? (Nat.toDigits 10 n) = some (n : Rat) := by
  have hdigits : ∀ c ∈ Nat.toDigits 10 n, c.isDigit = true := fun _ => isDigit_of_mem_toDigits
  have htake : (Nat.toDigits 10 n).takeWhile Char.isDigit = Nat.toDigits 10 n := by
    rw [← List.append_nil (Nat.toDigits 10 n), List.takeWhile_append_of_pos hdigits]
    rfl
  have hdrop : (Nat.toDigits 10 n).dropWhile Char.isDigit = [] := by
    rw [← List.append_nil (Nat.toDigits 10 n), List.dropWhile_append_of_pos hdigits]
    rfl
  simp only [jsonMagnitude?, htake, hdrop, jsonWhole?_toDigits, jsonExponent?, bind, Option.bind]
  simp

theorem jsonWord?_cons {c : Char} {rest : List Char} (hn : c ≠ 'n') (ht : c ≠ 't') (hf : c ≠ 'f')
    (hdash : c ≠ '-') :
    jsonWord? (c :: rest) = (jsonMagnitude? (c :: rest)).map .number := by
  have hnull : c :: rest ≠ "null".toList := fun h => hn (List.cons.inj h).1
  have htrue : c :: rest ≠ "true".toList := fun h => ht (List.cons.inj h).1
  have hfalse : c :: rest ≠ "false".toList := fun h => hf (List.cons.inj h).1
  rw [jsonWord?, if_neg hnull, if_neg htrue, if_neg hfalse]
  exact fun magnitude h => hdash (List.cons.inj h).1

theorem jsonWord?_toString (n : Int) :
    jsonWord? (toString n).toList = some (.number (n : Rat)) := by
  cases n with
  | ofNat m =>
    have htext : (toString (Int.ofNat m)).toList = Nat.toDigits 10 m := toList_toString_natCast m
    have hread := jsonMagnitude?_toDigits m
    rw [htext]
    obtain ⟨c, digits, hdigits⟩ :=
      List.exists_cons_of_ne_nil (Nat.toDigits_ne_nil : Nat.toDigits 10 m ≠ [])
    rw [hdigits] at hread ⊢
    have hdigit : c.isDigit = true := isDigit_of_mem_toDigits (hdigits ▸ List.mem_cons_self)
    have hne : ∀ {d : Char}, d.isDigit = false → c ≠ d := by
      rintro d hd rfl
      exact absurd (hdigit.symm.trans hd) (by decide)
    rw [jsonWord?_cons (hne rfl) (hne rfl) (hne rfl) (hne rfl), hread]
    rfl
  | negSucc m =>
    have hnumber : -((m + 1 : Nat) : Rat) = ((Int.negSucc m : Int) : Rat) := by
      rw [Int.negSucc_eq, Rat.intCast_neg]
      rfl
    rw [toList_toString_negSucc, jsonWord?, if_neg (by simp), if_neg (by simp), if_neg (by simp)]
    simp only [jsonMagnitude?_toDigits, Option.map_some, hnumber]

/-! ## Tokens -/

/-- A text does not go on with a word. -/
def EndsWord (rest : List Char) : Prop :=
  ∀ c ∈ rest.head?, isJsonWordChar c = false

namespace JsonReading

variable {parser : JsonParser} {rest : List Char}

theorem read_append (reading : JsonReading) (text rest : List Char) :
    reading.read (text ++ rest) = (text.foldlM step reading).bind (·.read rest) := by
  rw [read, List.foldlM_append]
  exact Option.bind_assoc _ _ _

theorem read_cons (reading : JsonReading) (c : Char) (rest : List Char) :
    reading.read (c :: rest) = (reading.step c).bind (·.read rest) := by
  rw [read, List.foldlM_cons]
  exact Option.bind_assoc _ _ _

theorem read_blank {c : Char} (hquote : c ≠ '"') (hword : isJsonWordChar c = false)
    (hblank : isJsonBlank c = true) :
    read ⟨parser, .between⟩ (c :: rest) = read ⟨parser, .between⟩ rest := by
  rw [read_cons]
  simp only [step, outside, if_neg hquote, hword, hblank, Bool.false_eq_true, if_false, if_true,
    Option.bind_some]

theorem read_mark {c : Char} (hquote : c ≠ '"') (hword : isJsonWordChar c = false)
    (hblank : isJsonBlank c = false) :
    read ⟨parser, .between⟩ (c :: rest)
      = (parser.take (.mark c)).bind fun next => read ⟨next, .between⟩ rest := by
  rw [read_cons]
  simp only [step, outside, if_neg hquote, hword, hblank, Bool.false_eq_true, if_false]
  cases parser.take (.mark c) <;> rfl

theorem read_inWord {text : List Char} (htext : ∀ c ∈ text, isJsonWordChar c = true)
    (hrest : EndsWord rest) (done : List Char) :
    read ⟨parser, .word done⟩ (text ++ rest)
      = (parser.take (.word (done ++ text))).bind fun next => read ⟨next, .between⟩ rest := by
  induction text generalizing done with
  | nil =>
    rw [List.append_nil]
    cases rest with
    | nil => rfl
    | cons c rest =>
      have hend : isJsonWordChar c = false := hrest c rfl
      rw [List.nil_append, read_cons]
      simp only [step, hend, Bool.false_eq_true, if_false, Option.bind_assoc]
      congr 1
      funext next
      rw [read_cons]
      rfl
  | cons c text ih =>
    have hc : isJsonWordChar c = true := htext c List.mem_cons_self
    rw [List.cons_append, read_cons]
    simp only [step, hc, if_true, Option.bind_some]
    rw [ih (fun d hd => htext d (List.mem_cons_of_mem _ hd)), List.append_assoc]
    rfl

theorem read_word {text : List Char} (htext : ∀ c ∈ text, isJsonWordChar c = true)
    (hne : text ≠ []) (hrest : EndsWord rest) :
    read ⟨parser, .between⟩ (text ++ rest)
      = (parser.take (.word text)).bind fun next => read ⟨next, .between⟩ rest := by
  obtain ⟨c, others, rfl⟩ := List.exists_cons_of_ne_nil hne
  have hc : isJsonWordChar c = true := htext c List.mem_cons_self
  have hquote : c ≠ '"' := by
    rintro rfl
    exact absurd hc (by decide)
  rw [List.cons_append, read_cons]
  simp only [step, outside, if_neg hquote, hc, if_true, Option.bind_some]
  exact read_inWord (fun d hd => htext d (List.mem_cons_of_mem _ hd)) hrest [c]

theorem foldlM_plain {text : List Char} (h : ∀ c ∈ text, c ≠ '"' ∧ c ≠ '\\') (done : List Char) :
    text.foldlM step ⟨parser, .quoted done⟩ = some ⟨parser, .quoted (done ++ text)⟩ := by
  induction text generalizing done with
  | nil => rw [List.append_nil]; rfl
  | cons c rest ih =>
    obtain ⟨hquote, hbackslash⟩ := h c List.mem_cons_self
    have hstep : step ⟨parser, .quoted done⟩ c = some ⟨parser, .quoted (done ++ [c])⟩ := by
      simp only [step, if_neg hquote, if_neg hbackslash]
    rw [List.foldlM_cons, hstep]
    exact (ih (fun d hd => h d (List.mem_cons_of_mem _ hd)) _).trans
      (by rw [List.append_assoc, List.singleton_append])

theorem foldlM_escapeUnit (n : Nat) (done : List Char) :
    (escapeUnit n).foldlM step ⟨parser, .quoted done⟩
      = some ⟨parser, .quoted (done ++ escapeUnit n)⟩ := by
  have hplain : ∀ c ∈ hexDigits 4 n, c ≠ '"' ∧ c ≠ '\\' := by
    intro c hc
    obtain ⟨m, hm, rfl⟩ := exists_of_mem_hexDigits hc
    have hall : ∀ m < 16, hexDigit m ≠ '"' ∧ hexDigit m ≠ '\\' := by decide
    exact hall m hm
  refine (foldlM_plain hplain (done ++ ['\\', 'u'])).trans ?_
  rw [List.append_assoc]
  rfl

theorem foldlM_escapeJson (c : Char) (done : List Char) :
    (escapeJson c).foldlM step ⟨parser, .quoted done⟩
      = some ⟨parser, .quoted (done ++ escapeJson c)⟩ := by
  have hescaped := isEscaped_escapeJson c
  generalize escapeJson c = written at hescaped ⊢
  cases hescaped with
  | letter hletter hshort => rfl
  | plain hlow hhigh hquote hbackslash =>
    exact foldlM_plain (by simpa using ⟨hquote, hbackslash⟩) done
  | unit hsmall => exact foldlM_escapeUnit _ _
  | pair hlarge =>
    rw [List.foldlM_append, foldlM_escapeUnit]
    exact (foldlM_escapeUnit _ _).trans (by rw [List.append_assoc])

/-- In a string, what is written for a text is a part of the body. -/
theorem foldlM_flatMap_escapeJson (text done : List Char) :
    (text.flatMap escapeJson).foldlM step ⟨parser, .quoted done⟩
      = some ⟨parser, .quoted (done ++ text.flatMap escapeJson)⟩ := by
  induction text generalizing done with
  | nil => rw [List.flatMap_nil, List.append_nil]; rfl
  | cons c rest ih =>
    rw [List.flatMap_cons, List.foldlM_append, foldlM_escapeJson]
    exact (ih _).trans (by rw [List.append_assoc])

theorem read_jsonString (s : String) :
    read ⟨parser, .between⟩ (jsonString s ++ rest)
      = (parser.take (.quoted (s.toList.flatMap escapeJson))).bind
          fun next => read ⟨next, .between⟩ rest := by
  have hopen : read ⟨parser, .between⟩ (jsonString s ++ rest)
      = read ⟨parser, .quoted []⟩ (s.toList.flatMap escapeJson ++ '"' :: rest) := by
    rw [jsonString, List.append_assoc, List.cons_append, read_cons]
    rfl
  rw [hopen, read_append, foldlM_flatMap_escapeJson, Option.bind_some, read_cons, List.nil_append]
  simp only [step, if_true]
  cases parser.take (.quoted (s.toList.flatMap escapeJson)) <;> rfl

theorem read_lineBreak (layout : JsonLayout) (level : Nat) :
    read ⟨parser, .between⟩ (layout.lineBreak level ++ rest) = read ⟨parser, .between⟩ rest := by
  cases layout with
  | none => rfl
  | some width =>
    have hspaces : ∀ n, read ⟨parser, .between⟩ (List.replicate n ' ' ++ rest)
        = read ⟨parser, .between⟩ rest := by
      intro n
      induction n with
      | zero => rfl
      | succ n ih =>
        rw [List.replicate_succ, List.cons_append, read_blank (by decide) (by decide) (by decide)]
        exact ih
    rw [JsonLayout.lineBreak, List.cons_append, read_blank (by decide) (by decide) (by decide)]
    exact hspaces _

theorem read_separator (layout : JsonLayout) (level : Nat) :
    read ⟨parser, .between⟩ (layout.separator level ++ rest)
      = (parser.take (.mark ',')).bind fun next => read ⟨next, .between⟩ rest := by
  cases layout with
  | none =>
    rw [JsonLayout.separator, List.cons_append, read_mark (by decide) (by decide) (by decide)]
    refine congrArg _ (funext fun next => ?_)
    exact read_blank (by decide) (by decide) (by decide)
  | some width =>
    rw [JsonLayout.separator, List.cons_append, read_mark (by decide) (by decide) (by decide)]
    exact congrArg _ (funext fun next => read_lineBreak _ _)

end JsonReading

/-! ## Values -/

namespace EndsWord

variable {rest : List Char} (layout : JsonLayout) (level : Nat)

theorem cons {c : Char} (h : isJsonWordChar c = false) (rest : List Char) :
    EndsWord (c :: rest) := by
  intro d hd
  rw [← Option.some.inj hd]
  exact h

theorem lineBreak (h : EndsWord rest) : EndsWord (layout.lineBreak level ++ rest) := by
  cases layout with
  | none => exact h
  | some width => exact cons (by decide) _

theorem separator : EndsWord (layout.separator level ++ rest) := by
  cases layout with
  | none => exact cons (by decide) _
  | some width => exact cons (by decide) _

theorem renderItems (items : List Json) (h : EndsWord rest) :
    EndsWord (Json.renderItems layout level items ++ rest) := by
  cases items with
  | nil => exact h
  | cons item items =>
    rw [Json.renderItems, List.append_assoc, List.append_assoc]
    exact separator layout level

theorem renderFields (fields : List (String × Json)) (h : EndsWord rest) :
    EndsWord (Json.renderFields layout level fields ++ rest) := by
  cases fields with
  | nil => exact h
  | cons field fields =>
    rw [Json.renderFields, List.append_assoc, List.append_assoc]
    exact separator layout level

end EndsWord

/-- With a token that is not the end of an array, the parser begins a value inside of what is open
    on the stack. -/
def JsonParser.Begins (parser : JsonParser) (stack : List JsonFrame) : Prop :=
  ∀ token, token ≠ .mark ']' → parser.take token = begin stack token

theorem JsonParser.begins_value (stack : List JsonFrame) : Begins ⟨stack, .value⟩ stack :=
  fun _ _ => rfl

theorem JsonParser.begins_firstItem (stack : List JsonFrame) :
    Begins ⟨stack, .firstItem⟩ (.array [] :: stack) := by
  intro token htoken
  cases token with
  | word text => rfl
  | quoted body => rfl
  | mark c =>
    simp [take]

namespace JsonReading

variable {parser : JsonParser} {stack : List JsonFrame} {rest : List Char}

theorem read_key {fields : List (String × JsonValue)} {key : String}
    (hkey : ∀ body, parser.take (.quoted body) = JsonParser.takeKey stack fields body) :
    read ⟨parser, .between⟩ (jsonString key ++ ([':', ' '] ++ rest))
      = read ⟨⟨.object fields key :: stack, .value⟩, .between⟩ rest := by
  rw [read_jsonString, hkey, JsonParser.takeKey, jsonText?_flatMap_escapeJson, Option.map_some,
    Option.bind_some, String.ofList_toList, List.cons_append,
    read_mark (by decide) (by decide) (by decide)]
  exact read_blank (by decide) (by decide) (by decide)

theorem isJsonWordChar_of_mem_toString {n : Int} {c : Char} (h : c ∈ (toString n).toList) :
    isJsonWordChar c = true := by
  rcases eq_dash_or_isDigit h with rfl | hdigit
  · decide
  · simp [isJsonWordChar, Char.isAlphanum, hdigit]

mutual

/-- Where a value may come, the text of a value is read as the value. -/
theorem read_render (layout : JsonLayout) (level : Nat) (item : Json) (parser : JsonParser)
    (stack : List JsonFrame) (hparser : parser.Begins stack) (rest : List Char)
    (hrest : EndsWord rest) :
    read ⟨parser, .between⟩ (item.render layout level ++ rest)
      = read ⟨⟨stack, .after item.value⟩, .between⟩ rest := by
  match item with
  | .null =>
    rw [Json.render, read_word (List.all_eq_true.1 (by decide)) (by decide) hrest,
      hparser (.word _) nofun]
    rfl
  | .number n =>
    have hne : (toString n).toList ≠ [] := by
      intro hnil
      have hword := jsonWord?_toString n
      rw [hnil] at hword
      cases hword
    rw [Json.render, read_word (fun _ => isJsonWordChar_of_mem_toString) hne hrest,
      hparser (.word _) nofun, JsonParser.begin, jsonWord?_toString]
    rfl
  | .text s =>
    rw [Json.render, read_jsonString, hparser (.quoted _) nofun, JsonParser.begin,
      jsonText?_flatMap_escapeJson, Option.map_some, Option.bind_some, String.ofList_toList]
    rfl
  | .array [] =>
    rw [Json.render, List.cons_append, read_mark (by decide) (by decide) (by decide),
      hparser (.mark _) (by simp)]
    exact read_mark (by decide) (by decide) (by decide)
  | .array (item :: items) =>
    have hshape : (Json.array (item :: items)).render layout level ++ rest
        = '[' :: (layout.lineBreak (level + 1) ++ (item.render layout (level + 1)
          ++ (Json.renderItems layout (level + 1) items
            ++ (layout.lineBreak level ++ ']' :: rest)))) := by
      simp [Json.render]
    have hclose : EndsWord (layout.lineBreak level ++ ']' :: rest) :=
      (EndsWord.cons (by decide) rest).lineBreak layout level
    rw [hshape, read_mark (by decide) (by decide) (by decide), hparser (.mark _) (by simp)]
    refine (read_lineBreak _ _).trans ?_
    rw [read_render layout (level + 1) item _ _ (JsonParser.begins_firstItem stack) _
      (hclose.renderItems _ _ items)]
    exact read_renderItems layout level items stack [] item.value rest
  | .object [] =>
    rw [Json.render, List.cons_append, read_mark (by decide) (by decide) (by decide),
      hparser (.mark _) (by simp)]
    exact read_mark (by decide) (by decide) (by decide)
  | .object ((key, item) :: fields) =>
    have hshape : (Json.object ((key, item) :: fields)).render layout level ++ rest
        = '\x7b' :: (layout.lineBreak (level + 1) ++ (jsonString key ++ ([':', ' ']
          ++ (item.render layout (level + 1) ++ (Json.renderFields layout (level + 1) fields
            ++ (layout.lineBreak level ++ '\x7d' :: rest)))))) := by
      simp [Json.render, Json.renderField]
    have hclose : EndsWord (layout.lineBreak level ++ '\x7d' :: rest) :=
      (EndsWord.cons (by decide) rest).lineBreak layout level
    rw [hshape, read_mark (by decide) (by decide) (by decide), hparser (.mark _) (by simp)]
    refine (read_lineBreak _ _).trans ((read_key fun _ => rfl).trans ?_)
    rw [read_render layout (level + 1) item _ _ (JsonParser.begins_value _) _
      (hclose.renderFields _ _ fields)]
    exact read_renderFields layout level fields stack [] key item.value rest

/-- After an item of an array, the text of the others and its end is read as the array. -/
theorem read_renderItems (layout : JsonLayout) (level : Nat) (items : List Json)
    (stack : List JsonFrame) (before : List JsonValue) (last : JsonValue) (rest : List Char) :
    read ⟨⟨.array before :: stack, .after last⟩, .between⟩
        (Json.renderItems layout (level + 1) items ++ (layout.lineBreak level ++ ']' :: rest))
      = read ⟨⟨stack, .after (.array (before ++ last :: Json.values items))⟩, .between⟩ rest := by
  match items with
  | [] =>
    rw [Json.renderItems, List.nil_append, read_lineBreak]
    exact read_mark (by decide) (by decide) (by decide)
  | item :: items =>
    have hclose : EndsWord (layout.lineBreak level ++ ']' :: rest) :=
      (EndsWord.cons (by decide) rest).lineBreak layout level
    rw [Json.renderItems, List.append_assoc, List.append_assoc, read_separator]
    refine (read_render layout (level + 1) item _ _ (JsonParser.begins_value _) _
      (hclose.renderItems _ _ items)).trans ?_
    rw [read_renderItems layout level items stack (before ++ [last]) item.value rest,
      List.append_assoc]
    rfl

/-- After a field of an object, the text of the others and its end is read as the object. -/
theorem read_renderFields (layout : JsonLayout) (level : Nat) (fields : List (String × Json))
    (stack : List JsonFrame) (before : List (String × JsonValue)) (key : String)
    (last : JsonValue) (rest : List Char) :
    read ⟨⟨.object before key :: stack, .after last⟩, .between⟩
        (Json.renderFields layout (level + 1) fields ++ (layout.lineBreak level ++ '\x7d' :: rest))
      = read ⟨⟨stack, .after (.object (before ++ (key, last) :: Json.fieldValues fields))⟩,
          .between⟩ rest := by
  match fields with
  | [] =>
    rw [Json.renderFields, List.nil_append, read_lineBreak]
    exact read_mark (by decide) (by decide) (by decide)
  | (next, item) :: fields =>
    have hclose : EndsWord (layout.lineBreak level ++ '\x7d' :: rest) :=
      (EndsWord.cons (by decide) rest).lineBreak layout level
    rw [Json.renderFields, Json.renderField, List.append_assoc, List.append_assoc, read_separator]
    simp only [List.append_assoc]
    refine (read_key fun _ => rfl).trans ?_
    rw [read_render layout (level + 1) item _ _ (JsonParser.begins_value _) _
      (hclose.renderFields _ _ fields), read_renderFields layout level fields stack
        (before ++ [(key, last)]) next item.value rest, List.append_assoc]
    rfl

end

end JsonReading

/-- The text of a value is read as the value. -/
theorem readJson_render (layout : JsonLayout) (item : Json) :
    readJson (String.ofList (item.render layout 0)) = some item.value := by
  have hread := JsonReading.read_render layout 0 item {} [] (JsonParser.begins_value []) [] nofun
  rw [List.append_nil] at hread
  rw [readJson, String.toList_ofList]
  exact hread

/-! ## Graphs -/

theorem whole?_number (n : Int) : (JsonValue.number (n : Rat)).whole? = some n := by
  rw [JsonValue.whole?, if_pos (Rat.den_intCast n), Rat.num_intCast]

theorem Node.ofJson?_toJson (node : Node) : Node.ofJson? node.toJson.value = some node := by
  obtain ⟨id, label, kind, sourcePath, startLine, endLine, parentId, snippet⟩ := node
  cases parentId <;> cases endLine <;> cases snippet <;>
    simp [Node.toJson, Node.ofJson?, Json.value, Json.fieldValues, JsonValue.field?,
      JsonValue.text?, whole?_number, List.lookup_cons, List.lookup_nil]

theorem Edge.ofJson?_toJson (edge : Edge) : Edge.ofJson? edge.toJson.value = some edge := rfl

theorem mapM_values {α : Type} {toJson : α → Json} {ofJson? : JsonValue → Option α}
    (h : ∀ item, ofJson? (toJson item).value = some item) (items : List α) :
    (Json.values (items.map toJson)).mapM ofJson? = some items := by
  induction items with
  | nil => rfl
  | cons item rest ih =>
    rw [List.map_cons, Json.values, List.mapM_cons, h, ih]
    rfl

theorem Snapshot.ofJson?_toJson (snapshot : Snapshot) :
    Snapshot.ofJson? snapshot.toJson.value = some snapshot := by
  have hnodes := mapM_values Node.ofJson?_toJson snapshot.nodes
  have hedges := mapM_values Edge.ofJson?_toJson snapshot.edges
  simp [Snapshot.toJson, Snapshot.ofJson?, Json.value, Json.fieldValues, JsonValue.field?,
    JsonValue.items?, List.lookup_cons, hnodes, hedges]

/-! ## ASCII -/

/-- All characters are below 128. -/
def IsAscii (text : List Char) : Prop :=
  ∀ c ∈ text, c.toNat < 0x80

namespace IsAscii

theorem append {text more : List Char} (h : IsAscii text) (hmore : IsAscii more) :
    IsAscii (text ++ more) := by
  intro c hc
  exact (List.mem_append.1 hc).elim (h c) (hmore c)

theorem cons {c : Char} {text : List Char} (hc : c.toNat < 0x80) (h : IsAscii text) :
    IsAscii (c :: text) :=
  List.forall_mem_cons.2 ⟨hc, h⟩

theorem nil : IsAscii [] := nofun

theorem escapeUnit (n : Nat) : IsAscii (escapeUnit n) := by
  have hdigits : IsAscii (hexDigits 4 n) := by
    intro c hc
    obtain ⟨m, hm, rfl⟩ := exists_of_mem_hexDigits hc
    have hall : ∀ m < 16, (hexDigit m).toNat < 0x80 := by decide
    exact hall m hm
  exact cons (by decide) (cons (by decide) hdigits)

theorem escapeJson (c : Char) : IsAscii (escapeJson c) := by
  have hescaped := isEscaped_escapeJson c
  generalize SourceOutline.escapeJson c = written at hescaped ⊢
  cases hescaped with
  | @letter letter hletter hshort =>
    refine cons (by decide) (cons ?_ nil)
    -- only ASCII letters stand for characters
    unfold jsonShortEscape? at hshort
    split at hshort <;> first | decide | cases hshort
  | plain hlow hhigh hquote hbackslash => exact cons (by omega) nil
  | unit hsmall => exact escapeUnit _
  | pair hlarge => exact (escapeUnit _).append (escapeUnit _)

theorem jsonString (s : String) : IsAscii (jsonString s) := by
  have hbody : IsAscii (s.toList.flatMap SourceOutline.escapeJson) := by
    intro c hc
    obtain ⟨d, -, hd⟩ := List.mem_flatMap.1 hc
    exact escapeJson d c hd
  exact cons (by decide) (hbody.append (cons (by decide) nil))

theorem whole (n : Int) : IsAscii (toString n).toList := by
  intro c hc
  rcases eq_dash_or_isDigit hc with rfl | hdigit
  · decide
  · rw [Char.isDigit, Bool.and_eq_true, decide_eq_true_eq, decide_eq_true_eq] at hdigit
    have hle : c.toNat ≤ '9'.toNat := hdigit.2
    exact Nat.lt_of_le_of_lt hle (by decide)

theorem lineBreak (layout : JsonLayout) (level : Nat) : IsAscii (layout.lineBreak level) := by
  cases layout with
  | none => exact nil
  | some width =>
    refine cons (by decide) fun c hc => ?_
    rw [(List.mem_replicate.1 hc).2]
    decide

theorem separator (layout : JsonLayout) (level : Nat) : IsAscii (layout.separator level) := by
  cases layout with
  | none => exact cons (by decide) (cons (by decide) nil)
  | some width => exact cons (by decide) (lineBreak _ level)

mutual

theorem render (layout : JsonLayout) (level : Nat) (item : Json) :
    IsAscii (item.render layout level) := by
  match item with
  | .null => exact (List.all_iff_forall_prop.1 (by decide) : ∀ c ∈ "null".toList, c.toNat < 0x80)
  | .number n => exact whole n
  | .text s => exact jsonString s
  | .array [] => exact cons (by decide) (cons (by decide) nil)
  | .array (item :: items) =>
    exact ((((cons (by decide) (lineBreak layout (level + 1))).append
      (render layout (level + 1) item)).append (renderItems layout (level + 1) items)).append
        (lineBreak layout level)).append (cons (by decide) nil)
  | .object [] => exact cons (by decide) (cons (by decide) nil)
  | .object (field :: fields) =>
    exact ((((cons (by decide) (lineBreak layout (level + 1))).append
      (renderField layout (level + 1) field)).append
        (renderFields layout (level + 1) fields)).append
          (lineBreak layout level)).append (cons (by decide) nil)

theorem renderItems (layout : JsonLayout) (level : Nat) (items : List Json) :
    IsAscii (Json.renderItems layout level items) := by
  match items with
  | [] => exact nil
  | item :: items =>
    exact ((separator layout level).append (render layout level item)).append
      (renderItems layout level items)

theorem renderField (layout : JsonLayout) (level : Nat) (field : String × Json) :
    IsAscii (Json.renderField layout level field) := by
  match field with
  | (key, item) =>
    exact ((jsonString key).append (cons (by decide) (cons (by decide) nil))).append
      (render layout level item)

theorem renderFields (layout : JsonLayout) (level : Nat) (fields : List (String × Json)) :
    IsAscii (Json.renderFields layout level fields) := by
  match fields with
  | [] => exact nil
  | field :: fields =>
    exact ((separator layout level).append (renderField layout level field)).append
      (renderFields layout level fields)

end

end IsAscii

/-- However a snapshot is laid out, its JSON text is ASCII, a JSON reader gets from it the value
    that was written, with the fields of each object in order, and in this value all nodes and edges
    are found as they were. So snapshots that have a text in common, be it by different layouts, are
    the same. -/
theorem renderJson_faithful (snapshot : Snapshot) (indent : Option Int) :
    IsAscii (snapshot.renderJson indent).toList ∧
    readJson (snapshot.renderJson indent) = some snapshot.toJson.value ∧
    Snapshot.ofJson? snapshot.toJson.value = some snapshot ∧
    ∀ (other : Snapshot) (otherIndent : Option Int),
      other.renderJson otherIndent = snapshot.renderJson indent → other = snapshot := by
  refine ⟨?_, readJson_render _ _, snapshot.ofJson?_toJson, fun other otherIndent hsame => ?_⟩
  · rw [Snapshot.renderJson, String.toList_ofList]
    exact IsAscii.render _ _ _
  · have hread := readJson_render (JsonLayout.ofIndent otherIndent) other.toJson
    rw [← Snapshot.renderJson, hsame, Snapshot.renderJson, readJson_render] at hread
    have hfound := other.ofJson?_toJson
    rw [← Option.some.inj hread, snapshot.ofJson?_toJson] at hfound
    exact (Option.some.inj hfound).symm

end SourceOutline

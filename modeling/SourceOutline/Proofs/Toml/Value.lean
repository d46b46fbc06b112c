import Mathlib.Data.Option.Basic
import SourceOutline.Proofs.Result
import SourceOutline.Proofs.Text.Decimal
import SourceOutline.Proofs.Toml.Text
import SourceOutline.Toml.Reader

set_option autoImplicit false

/-! # Values of the layout are read back

A value that is no table stands on one line: a truth value as a word, an integer with its digits, a
text in double quotes, and an array in brackets with a comma after each item. So a comma or a line
feed comes after every value, which ends a number, and nothing of it is taken for a blank or a
comment. The reader takes as many steps as there are characters at most, so its budget lasts for any
text that is no longer (`ReadsAs`, `readsAs_itemText`). -/

namespace SourceOutline.Toml

/-! ## Integers -/

/-- A comma or a line feed, one of which comes after each written value. -/
def EndsValue (c : Char) : Prop :=
  c = ',' ∨ c = '\n'

theorem EndsValue.notMem {c : Char} (h : EndsValue c) :
    isDigit c = false ∧
      c ∉ ['_', '.', 'e', 'E', 'x', 'o', 'b', '"', ' ', '\t', '#', ']', ':', '-'] := by
  rcases h with rfl | rfl <;> decide

theorem isDigit_eq (c : Char) : isDigit c = c.isDigit := by
  unfold isDigit Char.isDigit
  rw [Bool.eq_iff_iff, Bool.and_eq_true, Bool.and_eq_true, decide_eq_true_eq, decide_eq_true_eq,
    decide_eq_true_eq, decide_eq_true_eq]
  exact Iff.rfl

theorem numberOf_toDigits (n : Nat) : numberOf 10 (Nat.toDigits 10 n) = n := by
  have hsame : ∀ (digits : List Char) (start : Nat), (∀ c ∈ digits, c.isDigit = true) →
      digits.foldl (fun n c => n * 10 + (hexValue? c).getD 0) start
        = Nat.ofDigitChars 10 digits start := by
    intro digits
    induction digits with
    | nil => intro start _; rfl
    | cons c rest ih =>
      intro start hdigits
      have hdigit := hdigits c List.mem_cons_self
      have hvalue : (hexValue? c).getD 0 = c.toNat - '0'.toNat := by
        rw [← isDigit_eq] at hdigit
        unfold isDigit at hdigit
        rw [hexValue?, if_pos hdigit]
        rfl
      rw [List.foldl_cons, ih _ fun d hd => hdigits d (List.mem_cons_of_mem _ hd), hvalue,
        Nat.ofDigitChars_cons, Nat.mul_comm]
  exact (hsame _ 0 fun c => isDigit_of_mem_toDigits).trans Nat.ofDigitChars_ten_toDigits

theorem digitRun_append {digits : List Char} {c : Char} (hdigits : ∀ d ∈ digits, isDigit d = true)
    (hc : isDigit c = false) (hunderscore : c ≠ '_') (rest : List Char) :
    digitRun isDigit (digits ++ c :: rest) = (digits, c :: rest) := by
  have hcons : ∀ (d : Char) (more : List Char), d ≠ '_' →
      digitRun isDigit (d :: more) = if isDigit d then
        (d :: (digitRun isDigit more).1, (digitRun isDigit more).2) else ([], d :: more) := by
    intro d more hd
    rw [digitRun]
    exact fun _ _ heq => absurd heq hd
  induction digits with
  | nil => rw [List.nil_append, hcons c rest hunderscore, hc, if_neg Bool.false_ne_true]
  | cons d more ih =>
    have hd := hdigits d List.mem_cons_self
    have hne : d ≠ '_' := by
      rintro rfl
      exact absurd hd (by decide)
    rw [List.cons_append, hcons d _ hne, if_pos hd,
      ih fun e he => hdigits e (List.mem_cons_of_mem _ he)]

theorem wholeDigits?_toDigits (n : Nat) {c : Char} (hc : EndsValue c) (rest : List Char) :
    wholeDigits? (Nat.toDigits 10 n ++ c :: rest) = some (Nat.toDigits 10 n, c :: rest) := by
  obtain ⟨first, more, hdigits⟩ :=
    List.exists_cons_of_ne_nil (Nat.toDigits_ne_nil : Nat.toDigits 10 n ≠ [])
  by_cases hzero : first = '0'
  · have hsingle := toDigits_eq_of_head? (n := n) (by rw [hdigits, hzero]; rfl)
    rw [hsingle]
    rfl
  · obtain ⟨hnondigit, hnot⟩ := hc.notMem
    have hall : ∀ d ∈ Nat.toDigits 10 n, isDigit d = true := fun d hd =>
      (isDigit_eq d).trans (isDigit_of_mem_toDigits hd)
    have hrun := digitRun_append hall hnondigit (List.ne_of_not_mem_cons hnot) rest
    have hfirst := hall first (hdigits ▸ List.mem_cons_self)
    rw [hdigits] at hrun ⊢
    rw [List.cons_append] at hrun ⊢
    unfold wholeDigits?
    split
    case h_1 heq => exact absurd (List.cons.inj heq).1 hzero
    case h_2 => rw [digits?, if_pos hfirst, hrun]

theorem readDecimal_toDigits (negative : Bool) (n : Nat) {c : Char} (hc : EndsValue c)
    (rest : List Char) :
    readDecimal none negative (Nat.toDigits 10 n ++ c :: rest)
      = some (.int (if negative then -n else n), c :: rest) := by
  have hfraction : fractionDigits (c :: rest) = (none, c :: rest) := by
    rcases hc with rfl | rfl <;> rfl
  have hexponent : readExponent (c :: rest) = (none, c :: rest) := by
    rcases hc with rfl | rfl <;> rfl
  unfold readDecimal
  rw [wholeDigits?_toDigits n hc]
  simp only [bind, Option.bind, hfraction, hexponent, Option.isNone_none, Bool.and_self, if_true,
    numberOf_toDigits]
  rfl

/-- A text that does not start like a number in another base or a word is read as a decimal. -/
theorem readNumber?_eq {limit : Option Nat} {text : List Char} (negative : Bool) (first : Char)
    (rest : List Char) (hsign : readSign text = (negative, first :: rest))
    (hdigit : isDigit first = true)
    (hbase : text.head? = some '0' → ∀ c ∈ (text.drop 1).head?, c ∉ ['x', 'o', 'b']) :
    readNumber? limit text = readDecimal limit negative (first :: rest) := by
  unfold readNumber?
  split
  case h_1 => exact absurd (hbase rfl _ rfl) (by decide)
  case h_2 => exact absurd (hbase rfl _ rfl) (by decide)
  case h_3 => exact absurd (hbase rfl _ rfl) (by decide)
  case h_4 =>
    rw [hsign]
    simp only
    split
    case h_1 heq =>
      rw [(List.cons.inj heq).1] at hdigit
      exact absurd hdigit (by decide)
    case h_2 heq =>
      rw [(List.cons.inj heq).1] at hdigit
      exact absurd hdigit (by decide)
    case h_3 => rfl

theorem readNumber?_toString (n : Int) {c : Char} (hc : EndsValue c) (rest : List Char) :
    readNumber? none ((toString n).toList ++ c :: rest) = some (.int n, c :: rest) := by
  have hdigit : ∀ {m : Nat} {d : Char} {more : List Char}, Nat.toDigits 10 m = d :: more →
      d.isDigit = true := fun hdigits =>
    isDigit_of_mem_toDigits (hdigits ▸ List.mem_cons_self)
  cases n with
  | ofNat m =>
    have hread := readDecimal_toDigits false m hc rest
    have htext : (toString (Int.ofNat m)).toList = Nat.toDigits 10 m := toList_toString_natCast m
    obtain ⟨d, more, hdigits⟩ :=
      List.exists_cons_of_ne_nil (Nat.toDigits_ne_nil : Nat.toDigits 10 m ≠ [])
    have hd := hdigit hdigits
    rw [htext]
    rw [hdigits, List.cons_append] at hread ⊢
    rw [readNumber?_eq false d (more ++ c :: rest), hread]
    · rfl
    · unfold readSign
      split
      case h_1 heq =>
        rw [(List.cons.inj heq).1] at hd
        exact absurd hd (by decide)
      case h_2 heq =>
        rw [(List.cons.inj heq).1] at hd
        exact absurd hd (by decide)
      case h_3 => rfl
    · rw [isDigit_eq, hd]
    · intro hzero e he
      have hsingle := toDigits_eq_of_head? (n := m) (by rw [hdigits]; exact hzero)
      rw [hdigits, List.cons.injEq] at hsingle
      rw [hsingle.2] at he
      rw [← Option.some.inj he]
      exact fun hmem => hc.notMem.2 (by revert hmem; simp; grind)
  | negSucc m =>
    have hread := readDecimal_toDigits true (m + 1) hc rest
    obtain ⟨d, more, hdigits⟩ :=
      List.exists_cons_of_ne_nil (Nat.toDigits_ne_nil : Nat.toDigits 10 (m + 1) ≠ [])
    rw [toList_toString_negSucc, List.cons_append]
    rw [hdigits, List.cons_append] at hread ⊢
    rw [readNumber?_eq true d (more ++ c :: rest), hread]
    · rfl
    · rfl
    · rw [isDigit_eq, hdigit hdigits]
    · exact fun hzero => absurd hzero (by simp)

/-! ## Dates -/

theorem readMarked?_append_eq_none {digits : List Char} {c mark : Char}
    (hdigits : ∀ d ∈ digits, isDigit d = true) (hc : isDigit c = false)
    (hmark : isDigit mark = false) (hne : c ≠ mark) (count : Nat) (rest : List Char) :
    readMarked? count mark (digits ++ c :: rest) = none := by
  rw [readMarked?, Option.bind_eq_bind, Option.bind_eq_none_iff]
  rintro ⟨n, after⟩ hread
  simp only [readDigits?] at hread
  split at hread
  case isFalse => cases hread
  case isTrue hall =>
    obtain ⟨-, rfl⟩ := Prod.mk.inj (Option.some.inj hread)
    by_cases hcount : count ≤ digits.length
    · -- what comes after so many digits is one more digit, or the other character
      rw [List.drop_append_of_le_length hcount]
      cases hrest : digits.drop count with
      | nil => exact if_neg hne
      | cons d more =>
        have hd := hdigits d (List.mem_of_mem_drop (hrest ▸ List.mem_cons_self))
        refine if_neg ?_
        rintro rfl
        rw [hmark] at hd
        cases hd
    · have hmem : c ∈ (digits ++ c :: rest).take count := by
        rw [List.take_append, List.take_of_length_le (by omega), List.mem_append]
        obtain ⟨k, hk⟩ : ∃ k, count - digits.length = k + 1 :=
          ⟨count - digits.length - 1, by omega⟩
        exact .inr (by rw [hk]; exact List.mem_cons_self)
      have hdigit := List.all_eq_true.1 (Bool.and_eq_true_iff.1 hall).2 c hmem
      rw [hc] at hdigit
      cases hdigit

/-- What starts neither like a date nor like a time is no moment. -/
theorem readMoment?_eq_none {text : List Char} (hdate : readMarked? 4 '-' text = none)
    (hclock : readMarked? 2 ':' text = none) : readMoment? text = none := by
  have hnoDate : readDate? text = none := by
    rw [readDate?, hdate]
    rfl
  have hnoClock : readClock? text = none := by
    rw [readClock?, hclock]
    rfl
  rw [readMoment?, hnoDate, hnoClock]
  rfl

theorem readMoment?_toString (n : Int) {c : Char} (hc : EndsValue c) (rest : List Char) :
    readMoment? ((toString n).toList ++ c :: rest) = none := by
  obtain ⟨hnondigit, hnot⟩ := hc.notMem
  have hcolon : c ≠ ':' := by
    rintro rfl
    exact hnot (by decide)
  have hdash : c ≠ '-' := by
    rintro rfl
    exact hnot (by decide)
  cases n with
  | ofNat m =>
    have htext : (toString (Int.ofNat m)).toList = Nat.toDigits 10 m := toList_toString_natCast m
    have hdigits : ∀ d ∈ Nat.toDigits 10 m, isDigit d = true := fun d hd =>
      (isDigit_eq d).trans (isDigit_of_mem_toDigits hd)
    rw [htext]
    exact readMoment?_eq_none
      (readMarked?_append_eq_none hdigits hnondigit (by decide) hdash 4 rest)
      (readMarked?_append_eq_none hdigits hnondigit (by decide) hcolon 2 rest)
  | negSucc m =>
    rw [toList_toString_negSucc, List.cons_append]
    have hsign : ∀ count mark after, readMarked? (count + 1) mark ('-' :: after) = none := by
      intro count mark after
      have hdigit : isDigit '-' = false := by decide
      simp [readMarked?, readDigits?, hdigit]
    exact readMoment?_eq_none (hsign _ _ _) (hsign _ _ _)

/-! ## Values -/

/-- A character that begins no blank, no comment and no end of an array. -/
def StartsValue (c : Char) : Prop :=
  c ∉ ['\n', '\r', ' ', '\t', '#', ']']

theorem skipTrivia_cons {c : Char} (h : c ∉ ['\n', ' ', '\t', '#']) (rest : List Char) :
    skipTrivia false (c :: rest) = some (c :: rest) := by
  simp only [List.mem_cons, not_or] at h
  obtain ⟨hfeed, hspace, htab, hcomment, -⟩ := h
  rw [skipTrivia, if_neg Bool.false_ne_true, if_neg (by simp [hspace, htab]), if_neg hcomment]
  exact fun heq => hfeed heq

/-- What is known of the text of a value: how it starts, that it holds no carriage return, and that
    it is read as the value before what ends one. -/
structure ReadsAs (text : List Char) (value : Value) : Prop where
  starts : ∃ c tail, text = c :: tail ∧ StartsValue c
  noReturn : '\r' ∉ text
  read : ∀ {budget : Nat} {c : Char} (rest : List Char), text.length ≤ budget → EndsValue c →
    readValue? none budget (text ++ c :: rest) = some (value, c :: rest)

/-- The budget for a text that is not empty is not used up. -/
theorem exists_budget_eq {c : Char} {text : List Char} {budget : Nat}
    (h : (c :: text).length ≤ budget) : ∃ n, budget = n + 1 :=
  ⟨budget - 1, by simp only [List.length_cons] at h; omega⟩

theorem readsAs_bool (b : Bool) : ReadsAs (if b then "true" else "false").toList (.bool b) := by
  cases b with
  | true =>
    refine ⟨⟨'t', "rue".toList, rfl, by unfold StartsValue; decide⟩, by decide, ?_⟩
    intro budget c rest hbudget _
    obtain ⟨n, rfl⟩ := exists_budget_eq hbudget
    rfl
  | false =>
    refine ⟨⟨'f', "alse".toList, rfl, by unfold StartsValue; decide⟩, by decide, ?_⟩
    intro budget c rest hbudget _
    obtain ⟨n, rfl⟩ := exists_budget_eq hbudget
    rfl

/-- A character of an integer starts no other value than a number or a date. -/
theorem readValue?_number {limit : Option Nat} {budget : Nat} {c : Char} {rest : List Char}
    (h : c = '-' ∨ c.isDigit = true) (hmoment : readMoment? (c :: rest) = none) :
    readValue? limit (budget + 1) (c :: rest) = readNumber? limit (c :: rest) := by
  have hother : c ∉ ['t', 'f', '[', '\x7b', '"', '\''] := by
    rcases h with rfl | hdigit
    · decide
    · intro hmem
      have hall : ∀ d ∈ ['t', 'f', '[', '\x7b', '"', '\''], d.isDigit = false :=
        List.all_iff_forall_prop.1 (by decide)
      rw [hall c hmem] at hdigit
      cases hdigit
  unfold readValue?
  split
  case h_7 => rw [hmoment]
  all_goals next heq => exact absurd (by rw [(List.cons.inj heq).1]; decide) hother

theorem readsAs_int (n : Int) : ReadsAs (toString n).toList (.int n) := by
  have hchars : ∀ c ∈ (toString n).toList, c = '-' ∨ c.isDigit = true := fun c =>
    eq_dash_or_isDigit
  have hnot : ∀ {c : Char}, c = '-' ∨ c.isDigit = true → StartsValue c := by
    intro c hc hmem
    have hall : ∀ d ∈ ['\n', '\r', ' ', '\t', '#', ']'], d ≠ '-' ∧ d.isDigit = false :=
      List.all_iff_forall_prop.1 (by decide)
    obtain ⟨hdash, hdigit⟩ := hall c hmem
    rcases hc with rfl | hc
    · exact hdash rfl
    · rw [hdigit] at hc
      cases hc
  have hread := fun (c : Char) (rest : List Char) (hc : EndsValue c) =>
    readNumber?_toString n hc rest
  have hmoment := fun (c : Char) (rest : List Char) (hc : EndsValue c) =>
    readMoment?_toString n hc rest
  have hne : (toString n).toList ≠ [] := by
    cases n with
    | ofNat m =>
      have htext : (toString (Int.ofNat m)).toList = Nat.toDigits 10 m := toList_toString_natCast m
      exact htext ▸ Nat.toDigits_ne_nil
    | negSucc m => rw [toList_toString_negSucc]; exact List.cons_ne_nil _ _
  obtain ⟨first, more, htext⟩ := List.exists_cons_of_ne_nil hne
  rw [htext] at hread hmoment hchars ⊢
  have hfirst := hchars first List.mem_cons_self
  refine ⟨⟨first, more, rfl, hnot hfirst⟩, fun hmem => hnot (hchars _ hmem) (by decide), ?_⟩
  intro budget c rest hbudget hc
  obtain ⟨m, rfl⟩ := exists_budget_eq hbudget
  exact (readValue?_number hfirst (hmoment c rest hc)).trans (hread c rest hc)

theorem return_notMem_inQuotes {text : List Char} (hplain : IsPlainText text) :
    '\r' ∉ inQuotes text := by
  suffices hbody : '\r' ∉ escaped '"' text by simp [inQuotes, hbody]
  intro hmem
  obtain ⟨c, hc, hin⟩ := List.mem_flatMap.1 hmem
  have hform := isQuotedAs_quoteChar '"' (hplain c hc)
  generalize quoteChar '"' c = form at hform hin
  cases hform with
  | itself _ _ hprintable =>
    rw [← List.mem_singleton.1 hin] at hprintable
    revert hprintable
    decide +kernel
  | _ => exact absurd hin (by decide)

theorem readsAs_text {s : String} (hplain : IsPlainText s.toList) :
    ReadsAs (inQuotes s.toList) (.text s) := by
  refine ⟨⟨_, _, rfl, by unfold StartsValue; decide⟩, return_notMem_inQuotes hplain, ?_⟩
  · intro budget c rest hbudget hc
    obtain ⟨n, rfl⟩ := exists_budget_eq hbudget
    have hquote : (c :: rest).head? ≠ some '"' := by
      intro heq
      have hc' := hc.notMem.2
      rw [Option.some.inj heq] at hc'
      exact hc' (by decide)
    have hread := readString?_inQuotes hplain hquote
    rw [inQuotes_append] at hread ⊢
    rw [readValue?, hread]
    simp

/-- Items are read back up to the bracket that closes their array. -/
theorem readItems?_itemTexts {items : List Value}
    (hitems : ∀ item ∈ items, ReadsAs (itemText item) item) :
    '\r' ∉ itemTexts items ∧ ∀ {budget : Nat} (rest : List Char),
      (itemTexts items).length + 1 ≤ budget →
        readItems? none budget (itemTexts items ++ ']' :: rest) = some (items, rest) := by
  induction items with
  | nil =>
    refine ⟨List.not_mem_nil, ?_⟩
    intro budget rest hbudget
    obtain ⟨n, rfl⟩ : ∃ n, budget = n + 1 := ⟨budget - 1, by omega⟩
    rfl
  | cons item more ih =>
    obtain ⟨⟨c, tail, hstart, hc⟩, hreturn, hread⟩ := hitems item List.mem_cons_self
    obtain ⟨hreturns, hreads⟩ := ih fun i hi => hitems i (List.mem_cons_of_mem _ hi)
    rw [itemTexts]
    generalize itemText item = first, itemTexts more = others at *
    refine ⟨by simp [hreturn, hreturns], ?_⟩
    intro budget rest hbudget
    simp only [List.cons_append, List.append_assoc, List.length_cons, List.length_append]
      at hbudget ⊢
    obtain ⟨n, rfl⟩ : ∃ n, budget = n + 1 := ⟨budget - 1, by omega⟩
    have hitem : readValue? none n (first ++ ',' :: (others ++ ']' :: rest)) = _ :=
      hread _ (by omega) (.inl rfl)
    have hmore : readItems? none n (others ++ ']' :: rest) = _ := hreads rest (by omega)
    have hnot : c ∉ ['\n', ' ', '\t', '#'] := by
      unfold StartsValue at hc
      simp only [List.mem_cons, not_or] at hc ⊢
      exact ⟨hc.1, hc.2.2.1, hc.2.2.2.1, hc.2.2.2.2.1, List.not_mem_nil⟩
    have hbracket : c ≠ ']' := by
      rintro rfl
      exact hc (by decide)
    -- the blank before the item is skipped, and none of the item is
    have hskip : skipTrivia false (' ' :: (first ++ ',' :: (others ++ ']' :: rest)))
        = some (first ++ ',' :: (others ++ ']' :: rest)) := by
      rw [hstart, List.cons_append]
      exact skipTrivia_cons hnot _
    have hcomma : skipTrivia false (',' :: (others ++ ']' :: rest))
        = some (',' :: (others ++ ']' :: rest)) := skipTrivia_cons (by decide) _
    rw [readItems?, hskip]
    simp only [bind, Option.bind]
    split
    case h_1 heq =>
      rw [hstart] at heq
      exact absurd (List.cons.inj heq).1 hbracket
    case h_2 => simp only [hitem, hcomma, hmore, pure]

/-- A plain value is read back. -/
theorem readsAs_itemText {value : Value} (h : IsPlainItem value) :
    ReadsAs (itemText value) value := by
  induction h with
  | bool b => exact readsAs_bool b
  | int n => exact readsAs_int n
  | text hplain => exact readsAs_text hplain
  | @list items _ ih =>
    obtain ⟨hreturn, hread⟩ := readItems?_itemTexts ih
    refine ⟨⟨'[', itemTexts items ++ [']'], rfl, by unfold StartsValue; decide⟩, ?_, ?_⟩
    · simp [itemText, hreturn]
    · intro budget c rest hbudget _
      obtain ⟨n, rfl⟩ := exists_budget_eq hbudget
      have hn : (itemTexts items).length + 1 ≤ n := by simpa [itemText] using hbudget
      rw [itemText, List.cons_append, List.cons_append, List.append_assoc, List.singleton_append,
        readValue?, hread (c :: rest) hn]
      rfl

end SourceOutline.Toml

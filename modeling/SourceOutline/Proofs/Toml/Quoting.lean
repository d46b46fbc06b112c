import SourceOutline.Proofs.Result
import SourceOutline.Proofs.Toml.Text
import SourceOutline.Toml.Writer

set_option autoImplicit false

/-! # How the package writes values

The package makes a text in double quotes out of its quoted form (`writeText_eq`). There is one
exception: it takes a backslash with an `x` after it for an escape that TOML does not have, and
joins the pieces around it anew. It has no text either for an integer with too many digits. All
other plain values are written as they are in the layout (`writeValue_eq`). -/

namespace SourceOutline.Toml

/-! ## Texts -/

/-- No backslash stands right before an `x`. -/
def LacksHexEscape (text : List Char) : Prop :=
  ¬ ['\\', 'x'] <:+: text

instance (text : List Char) : Decidable (LacksHexEscape text) :=
  inferInstanceAs (Decidable (¬ ['\\', 'x'] <:+: text))

/-- What remains of such a text after its first character is one, and does not start with an `x` if
    that character is a backslash. -/
theorem LacksHexEscape.of_cons {c : Char} {text : List Char} (h : LacksHexEscape (c :: text)) :
    LacksHexEscape text ∧ (c = '\\' → text.head? ≠ some 'x') := by
  constructor
  · exact fun hin => h (hin.trans (List.suffix_cons c text).isInfix)
  · rintro rfl hhead
    obtain ⟨rest, rfl⟩ := List.head?_eq_some_iff.1 hhead
    exact h ⟨[], rest, rfl⟩

theorem replacePair_cons {a b c : Char} {replacement text : List Char}
    (h : c = a → text.head? ≠ some b) :
    replacePair a b replacement (c :: text) = c :: replacePair a b replacement text := by
  cases text with
  | nil => rfl
  | cons d rest =>
    rw [replacePair]
    have hpair : (decide (c = a) && decide (d = b)) = false := by
      refine Bool.eq_false_iff.2 fun hand => ?_
      rw [Bool.and_eq_true, decide_eq_true_eq, decide_eq_true_eq] at hand
      exact h hand.1 (congrArg some hand.2)
    rw [hpair]
    rfl

/-- A text in single quotes is made one for double quotes by unescaping the single quotes and
    escaping the double ones. -/
theorem requote_escaped {text : List Char} (h : IsPlainText text) :
    (replacePair '\\' '\'' ['\''] (escaped '\'' text)).flatMap
        (fun c => if c = '"' then ['\\', '"'] else [c])
      = escaped '"' text := by
  induction text with
  | nil => rfl
  | cons c rest ih =>
    have hrest : IsPlainText rest := fun d hd => h d (List.mem_cons_of_mem _ hd)
    have hlater := ih hrest
    have hform := isQuotedAs_quoteChar '\'' (h c List.mem_cons_self)
    rw [escaped, escaped, List.flatMap_cons, List.flatMap_cons, ← escaped, ← escaped]
    -- what follows an escaped backslash is not a quote, for that is escaped too
    have hnext : (escaped '\'' rest).head? ≠ some '\'' :=
      head?_escaped hrest (by decide) (.inl rfl)
    generalize hq : quoteChar '\'' c = form at hform
    cases hform with
    | quote =>
      have hprintable : quoteChar '"' '\'' = ['\''] := by decide +kernel
      rw [hprintable, List.cons_append, List.cons_append, List.nil_append, replacePair]
      simp [hlater]
    | backslash =>
      rw [List.cons_append, List.cons_append, List.nil_append,
        replacePair_cons fun _ => by simp, replacePair_cons fun _ => hnext]
      simp [hlater, quoteChar]
    | tab =>
      rw [List.cons_append, List.cons_append, List.nil_append,
        replacePair_cons fun _ => by simp, replacePair_cons fun hc => absurd hc (by decide)]
      simp [hlater, quoteChar]
    | lineFeed =>
      rw [List.cons_append, List.cons_append, List.nil_append,
        replacePair_cons fun _ => by simp, replacePair_cons fun hc => absurd hc (by decide)]
      simp [hlater, quoteChar]
    | itself hquote hbackslash hprintable =>
      rw [List.singleton_append, replacePair_cons fun hc => absurd hc hbackslash]
      by_cases hdouble : c = '"'
      · subst hdouble
        simp [hlater, quoteChar]
      · have hsame : quoteChar '"' c = [c] := by
          unfold quoteChar at hq ⊢
          simp only [hquote, hbackslash, decide_false, Bool.or_self, Bool.false_eq_true,
            if_false] at hq
          simp only [hdouble, hbackslash, decide_false, Bool.or_self, Bool.false_eq_true, if_false]
          exact hq
        rw [hsame]
        simp [hlater, hdouble]

/-- A text that is one piece stays so with a character in front that makes no escape. -/
theorem splitAtHexEscapes_cons {c : Char} {text : List Char}
    (h : splitAtHexEscapes text = [text]) (hc : c = '\\' → text.head? ≠ some 'x') :
    splitAtHexEscapes (c :: text) = [c :: text] := by
  unfold splitAtHexEscapes
  split
  case h_1 heq => cases heq
  case h_2 rest heq =>
    obtain ⟨rfl, rfl⟩ := List.cons.inj heq
    exact absurd rfl (hc rfl)
  case h_3 heq =>
    obtain ⟨rfl, rfl⟩ := List.cons.inj heq
    rw [h]

/-- An escaped text has no escape with an `x`, so it is not taken apart. -/
theorem splitAtHexEscapes_escaped {text : List Char} (h : IsPlainText text)
    (hlacks : LacksHexEscape text) :
    splitAtHexEscapes (escaped '"' text) = [escaped '"' text] := by
  induction text with
  | nil => rfl
  | cons c rest ih =>
    have hrest : IsPlainText rest := fun d hd => h d (List.mem_cons_of_mem _ hd)
    obtain ⟨hlacksRest, hnext⟩ := hlacks.of_cons
    have hlater := ih hrest hlacksRest
    have hform := isQuotedAs_quoteChar '"' (h c List.mem_cons_self)
    rw [escaped, List.flatMap_cons, ← escaped]
    generalize quoteChar '"' c = form at hform
    cases hform with
    | quote =>
      exact splitAtHexEscapes_cons (splitAtHexEscapes_cons hlater fun hc => absurd hc (by decide))
        fun _ => by simp
    | backslash =>
      have hx : (escaped '"' rest).head? ≠ some 'x' :=
        head?_escaped hrest (by decide) (.inr (hnext rfl))
      exact splitAtHexEscapes_cons (splitAtHexEscapes_cons hlater fun _ => hx) fun _ => by simp
    | tab =>
      exact splitAtHexEscapes_cons (splitAtHexEscapes_cons hlater fun hc => absurd hc (by decide))
        fun _ => by simp
    | lineFeed =>
      exact splitAtHexEscapes_cons (splitAtHexEscapes_cons hlater fun hc => absurd hc (by decide))
        fun _ => by simp
    | itself _ hbackslash _ =>
      exact splitAtHexEscapes_cons hlater fun hc => absurd hc hbackslash

theorem writeText_eq {text : List Char} (h : IsPlainText text) (hlacks : LacksHexEscape text) :
    writeText text = .ok (inQuotes text) := by
  have hquoted : quoted text
      = quoteFor text :: escaped (quoteFor text) text ++ [quoteFor text] := rfl
  have hstem : ((quoted text).drop 1).dropLast = escaped (quoteFor text) text := by
    rw [hquoted, List.cons_append, List.drop_one, List.tail_cons, List.dropLast_concat]
  have hinner : (if (quoted text).head? = some '\'' then
        (replacePair '\\' '\'' ['\''] ((quoted text).drop 1).dropLast).flatMap
          fun c => if c = '"' then ['\\', '"'] else [c]
      else ((quoted text).drop 1).dropLast) = escaped '"' text := by
    rw [hstem, hquoted, List.cons_append, List.head?_cons]
    by_cases hquote : quoteFor text = '\''
    · rw [if_pos (congrArg some hquote), hquote, requote_escaped h]
    · have hdouble : quoteFor text = '"' := by
        unfold quoteFor at hquote ⊢
        split at hquote
        case isTrue hboth => exact if_pos hboth
        case isFalse => exact absurd rfl hquote
      rw [if_neg fun hsome => hquote (Option.some.inj hsome), hdouble]
  unfold writeText
  simp only [hinner, splitAtHexEscapes_escaped h hlacks, joinPieces]
  rfl

/-! ## Keys and values -/

theorem writeKey_eq {key : String} (h : IsPlainKey key) (hlacks : LacksHexEscape key.toList) :
    writeKey key = .ok (keyText key) := by
  have hlast : key.toList.getLast? ≠ some '\n' := by
    intro hlast
    have hprintable := h.printable '\n' (List.mem_of_getLast? hlast)
    revert hprintable
    decide +kernel
  have hbare : isBareKey key.toList = key.toList.all isBareKeyChar := by
    unfold isBareKey
    simp only [if_neg hlast, List.isEmpty_eq_false_iff.2 h.ne_nil, Bool.not_false, Bool.true_and]
    rfl
  unfold writeKey keyText
  rw [hbare]
  split
  · rfl
  · exact writeText_eq h.isPlainText hlacks

/-- A value that is written as it should be: no text in it, key or value, holds a backslash right
    before an `x`, and all of its integers have texts. -/
inductive IsExact : Value → Prop
  | bool (b : Bool) : IsExact (.bool b)
  | int {n : Int} (h : hasText n = true) : IsExact (.int n)
  | text {s : String} (h : LacksHexEscape s.toList) : IsExact (.text s)
  | list {items : List Value} {fixed : Bool} (h : ∀ item ∈ items, IsExact item) :
      IsExact (.list items fixed)
  | table {fields : List (String × Value)} {inline : Bool}
      (hkeys : ∀ field ∈ fields, LacksHexEscape field.1.toList)
      (hvalues : ∀ field ∈ fields, IsExact field.2) : IsExact (.table fields inline)

theorem writeItems_eq {items : List Value}
    (h : ∀ item ∈ items, writeValue item = .ok (itemText item)) :
    writeItems items = .ok (itemTexts items) := by
  induction items with
  | nil => rfl
  | cons item rest ih =>
    rw [writeItems, h item List.mem_cons_self,
      ih fun other hother => h other (List.mem_cons_of_mem _ hother)]
    rfl

theorem writeValue_eq {value : Value} (h : IsPlainItem value) (hexact : IsExact value) :
    writeValue value = .ok (itemText value) := by
  induction h with
  | bool b => rfl
  | int n =>
    cases hexact with
    | int hshort => exact if_pos hshort
  | text hplain =>
    cases hexact with
    | text hlacks => exact writeText_eq hplain hlacks
  | list _ ih =>
    cases hexact with
    | list hitems =>
      rw [writeValue, writeItems_eq fun item hitem => ih item hitem (hitems item hitem)]
      rfl

end SourceOutline.Toml

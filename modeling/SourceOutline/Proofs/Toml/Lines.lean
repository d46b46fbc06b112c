import SourceOutline.Proofs.Toml.Value

set_option autoImplicit false

/-! # Lines are read one after another

The reader takes a text line by line, and what it has read of the lines before is all that counts
for the next one. So it is told for each kind of line in the layout what becomes of the document
(`Reads.header`, `Reads.line`), and lines that follow each other are put together
(`Reads.append`). -/

namespace SourceOutline.Toml

/-- From one document the reader comes to another with a text, whatever follows it. The budget for
    lines lasts for what follows if it did for both. -/
def Reads (nesting : Nat) (before : Document) (text : List Char) (after : Document) : Prop :=
  ∀ (budget : Nat) (rest : List Char), (text ++ rest).length + 1 ≤ budget →
    ∃ budget', rest.length + 1 ≤ budget' ∧
      readLines? none nesting budget before (text ++ rest)
        = readLines? none nesting budget' after rest

namespace Reads

variable {nesting : Nat} {before middle after : Document} {text more : List Char}

theorem nil : Reads nesting before [] before :=
  fun budget _ hbudget => ⟨budget, hbudget, rfl⟩

theorem append (h : Reads nesting before text middle) (hmore : Reads nesting middle more after) :
    Reads nesting before (text ++ more) after := by
  intro budget rest hbudget
  rw [List.append_assoc] at hbudget ⊢
  obtain ⟨budget', hbudget', hread⟩ := h budget (more ++ rest) hbudget
  rw [hread]
  exact hmore budget' rest hbudget'

theorem readLines?_eq (h : Reads nesting before text after) {budget : Nat}
    (hbudget : text.length + 1 ≤ budget) :
    readLines? none nesting budget before text = some after := by
  obtain ⟨budget', hbudget', hread⟩ := h budget [] (by rwa [List.append_nil])
  rw [List.append_nil] at hread
  obtain ⟨n, rfl⟩ : ∃ n, budget' = n + 1 := ⟨budget' - 1, by simp at hbudget'; omega⟩
  rw [hread]
  rfl

/-- A line is read if it starts with no blank, line feed or comment and is one statement. -/
theorem of_statement {c : Char} {tail : List Char} (hstart : text = c :: tail)
    (hc : c ∉ [' ', '\t', '\n', '#'])
    (hread : ∀ rest, readStatement? none nesting before (text ++ '\n' :: rest)
      = some (after, '\n' :: rest)) :
    Reads nesting before (text ++ ['\n']) after := by
  intro budget rest hbudget
  rw [List.append_assoc, List.singleton_append] at hbudget ⊢
  obtain ⟨n, rfl⟩ : ∃ n, budget = n + 1 := ⟨budget - 1, by omega⟩
  refine ⟨n, by simp only [hstart, List.length_append, List.length_cons] at hbudget; omega, ?_⟩
  have hstatement := hread rest
  simp only [List.mem_cons, not_or] at hc
  obtain ⟨hspace, htab, hfeed, hcomment, -⟩ := hc
  have hskip : skipBlanks (text ++ '\n' :: rest) = text ++ '\n' :: rest := by
    rw [hstart, List.cons_append, skipBlanks_cons _ hspace htab]
  have hend : endOfLine? ('\n' :: rest) = some rest := rfl
  rw [readLines?, hskip]
  split
  case h_1 heq => rw [hstart] at heq; cases heq
  case h_2 heq => rw [hstart] at heq; exact absurd (List.cons.inj heq).1 hfeed
  case h_3 heq => rw [hstart] at heq; exact absurd (List.cons.inj heq).1 hcomment
  case h_4 => simp only [hstatement, bind, Option.bind, hend]

theorem blank : Reads nesting before ['\n'] before := by
  intro budget rest hbudget
  obtain ⟨n, rfl⟩ : ∃ n, budget = n + 1 := ⟨budget - 1, by omega⟩
  refine ⟨n, by simp at hbudget; omega, ?_⟩
  rfl

theorem header {path : List String} (hne : path ≠ []) (hplain : ∀ key ∈ path, IsPlainKey key)
    (hnesting : (pathText path).length ≤ nesting)
    (hopen : before.openSection openTable path = some after) :
    Reads nesting before ('[' :: pathText path ++ "]\n".toList) after := by
  have hsplit : '[' :: pathText path ++ "]\n".toList
      = ('[' :: (pathText path ++ [']'])) ++ ['\n'] := by
    rw [List.cons_append, List.cons_append, List.append_assoc]
    rfl
  rw [hsplit]
  refine of_statement (c := '[') rfl (by decide) fun rest => ?_
  have hbracket : skipBlanks (']' :: '\n' :: rest) = ']' :: '\n' :: rest :=
    skipBlanks_cons _ (by decide) (by decide)
  have hread := readKey?_pathText ('\n' :: rest) hne hplain
    (by decide : isBareKeyChar ']' = false) (by rw [hbracket]; simp) nesting
    (Nat.le_trans (length_le_pathText hplain) hnesting)
  obtain ⟨c, tail, hpath, hstart⟩ := exists_pathText_eq_cons hne hplain
  have hskip : skipBlanks (pathText path ++ ']' :: '\n' :: rest)
      = pathText path ++ ']' :: '\n' :: rest := by
    rw [hpath, List.cons_append, skipBlanks_of_startsKey hstart]
  rw [List.cons_append, List.append_assoc, List.singleton_append]
  unfold readStatement?
  split
  case h_1 heq =>
    rw [hpath] at heq
    rw [(List.cons.inj (List.cons.inj heq).2).1] at hstart
    exact absurd (by decide) hstart.notMem
  case h_2 heq =>
    rw [← (List.cons.inj heq).2, hskip, hread]
    simp only [bind, Option.bind, hbracket, hopen, pure]
  case h_3 hother => exact absurd rfl (hother _)

theorem line {key : String} {written : List Char} {v : Value} (hplain : IsPlainKey key)
    (hvalue : ReadsAs written v) (hnesting : written.length + 1 ≤ nesting)
    (hset : before.set [key] v = some after) :
    Reads nesting before (keyText key ++ " = ".toList ++ written ++ ['\n']) after := by
  obtain ⟨c, tail, hkey, hstart⟩ := exists_keyText_eq_cons hplain
  have hnot := hstart.notMem
  have hfirst : keyText key ++ " = ".toList ++ written
      = c :: (tail ++ " = ".toList ++ written) := by
    rw [hkey, List.cons_append, List.cons_append]
  refine of_statement hfirst (by simp at hnot ⊢; grind) fun rest => ?_
  obtain ⟨d, more, hwritten, hd⟩ := hvalue.starts
  have hequals : skipBlanks (' ' :: '=' :: ' ' :: (written ++ '\n' :: rest))
      = '=' :: ' ' :: (written ++ '\n' :: rest) := rfl
  have hblank : skipBlanks (' ' :: (written ++ '\n' :: rest)) = written ++ '\n' :: rest := by
    have hstays : skipBlanks (written ++ '\n' :: rest) = written ++ '\n' :: rest := by
      unfold StartsValue at hd
      simp only [List.mem_cons, not_or] at hd
      rw [hwritten, List.cons_append, skipBlanks_cons _ hd.2.2.1 hd.2.2.2.1]
    exact hstays
  have hread := readKey?_pathText ('=' :: ' ' :: (written ++ '\n' :: rest))
    (List.cons_ne_nil key []) (fun k hk => List.mem_singleton.1 hk ▸ hplain)
    (by decide : isBareKeyChar ' ' = false) (by rw [hequals]; simp) nesting
    (by rw [List.length_singleton]; omega)
  have htext : keyText key ++ " = ".toList ++ written ++ '\n' :: rest
      = pathText [key] ++ ' ' :: '=' :: ' ' :: (written ++ '\n' :: rest) := by
    simp [pathText]
  have hparsed : readValue? none nesting (written ++ '\n' :: rest) = _ :=
    hvalue.read rest (by omega) (.inr rfl)
  have hbracket : c ≠ '[' := by
    rintro rfl
    exact hnot (by decide)
  unfold readStatement?
  split
  case h_1 heq =>
    rw [hfirst] at heq
    exact absurd (List.cons.inj heq).1 hbracket
  case h_2 heq =>
    rw [hfirst] at heq
    exact absurd (List.cons.inj heq).1 hbracket
  case h_3 =>
    rw [htext, hread, hequals]
    simp only [bind, Option.bind, hblank, hparsed, hset, pure]

end Reads

end SourceOutline.Toml

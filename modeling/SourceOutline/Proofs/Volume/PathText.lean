import SourceOutline.Volume.Resolve

set_option autoImplicit false

/-! # Paths and their texts

A step is written without a slash and never as nothing, so a path from the top can be read back from
its text: paths with the same start and the same text take the same steps (`Path.eq_of_text_eq`),
and reading the text gives the path if it stays nowhere (`Path.ofText_text`). Paths to what stands
below another go on from there by names (`Path.below`). A path to an entry holds a null character
only if the path to the folder or the name does. -/

namespace SourceOutline

/-! ## Joined pieces -/

theorem mem_intercalate_iff {separator c : Char} {pieces : List (List Char)} (hc : c ≠ separator) :
    c ∈ [separator].intercalate pieces ↔ ∃ piece ∈ pieces, c ∈ piece := by
  induction pieces with
  | nil => simp [List.intercalate]
  | cons piece rest ih =>
    cases rest with
    | nil => simp [List.intercalate]
    | cons next others =>
      rw [List.intercalate_cons_cons, List.mem_append, List.mem_append, ih]
      simp [hc]

theorem intercalate_prefix (separator : Char) (pieces more : List (List Char)) :
    [separator].intercalate pieces <+: [separator].intercalate (pieces ++ more) := by
  induction pieces with
  | nil => exact List.nil_prefix
  | cons piece rest ih =>
    cases rest with
    | nil =>
      cases more with
      | nil => exact List.prefix_rfl
      | cons next others =>
        rw [List.singleton_append, List.intercalate_cons_cons, List.append_assoc,
          List.intercalate_singleton]
        exact List.prefix_append _ _
    | cons next others =>
      rw [List.cons_append, List.cons_append, List.intercalate_cons_cons,
        List.intercalate_cons_cons, List.prefix_append_right_inj]
      exact ih

/-! ## Steps -/

theorem Name.text_spec (name : Name) :
    name.text ≠ "" ∧ name.text ≠ "." ∧ name.text ≠ ".." ∧ '/' ∉ name.text.toList := by
  have hvalid := name.valid
  simp only [isNameText, Bool.and_eq_true, bne_iff_ne, Bool.not_eq_true',
    List.contains_eq_mem, decide_eq_false_iff_not] at hvalid
  exact ⟨hvalid.1.1.1, hvalid.1.1.2, hvalid.1.2, hvalid.2⟩

theorem Step.slash_notMem_text (step : Step) : '/' ∉ step.text.toList := by
  cases step with
  | here => decide
  | up => decide
  | down name => exact name.text_spec.2.2.2

theorem Step.text_ne_empty (step : Step) : step.text ≠ "" := by
  cases step with
  | here => decide
  | up => decide
  | down name => exact name.text_spec.1

theorem Name.eq_of_text_eq {a b : Name} (h : a.text = b.text) : a = b := by
  cases a
  cases b
  cases h
  rfl

theorem Step.eq_of_text_eq {a b : Step} (h : a.text = b.text) : a = b := by
  cases a with
  | here =>
    cases b with
    | here => rfl
    | up => exact absurd h (by decide)
    | down name => exact absurd h.symm name.text_spec.2.1
  | up =>
    cases b with
    | here => exact absurd h (by decide)
    | up => rfl
    | down name => exact absurd h.symm name.text_spec.2.2.1
  | down name =>
    cases b with
    | here => exact absurd h name.text_spec.2.1
    | up => exact absurd h name.text_spec.2.2.1
    | down other => exact congrArg Step.down (Name.eq_of_text_eq h)

theorem Step.ofText_text {step : Step} (h : step ≠ .here) : Step.ofText step.text = step := by
  cases step with
  | here => exact absurd rfl h
  | up => rfl
  | down name =>
    rw [Step.ofText, if_neg (show (Step.down name).text ≠ ".." from name.text_spec.2.2.1),
      dif_pos (show isNameText (Step.down name).text = true from name.valid)]
    rfl

/-! ## Paths from the top -/

namespace Path

/-- The path that takes further steps. -/
def extend (path : Path) (more : List Step) : Path :=
  { path with steps := path.steps ++ more }

@[simp]
theorem extend_extend (path : Path) (more others : List Step) :
    (path.extend more).extend others = path.extend (more ++ others) := by
  simp [extend]

theorem child_eq_extend (path : Path) (name : Name) :
    path.child name = path.extend [.down name] := rfl

/-- The path that goes on to an entry, to an entry of that, and so on. -/
def below (path : Path) (names : List Name) : Path :=
  path.extend (names.map Step.down)

@[simp]
theorem below_nil (path : Path) : path.below [] = path := by
  simp [below, extend]

@[simp]
theorem below_cons (path : Path) (name : Name) (names : List Name) :
    path.below (name :: names) = (path.child name).below names := by
  simp [below, child_eq_extend]

theorem below_append (path : Path) (names more : List Name) :
    path.below (names ++ more) = (path.below names).below more := by
  simp [below]

theorem child_below (path : Path) (names : List Name) (name : Name) :
    (path.below names).child name = path.below (names ++ [name]) := by
  rw [below_append, below_cons, below_nil]

theorem below_inj {path : Path} {names others : List Name} :
    path.below names = path.below others ↔ names = others := by
  constructor
  · intro h
    have hsteps := List.append_cancel_left (congrArg Path.steps h)
    exact (List.map_inj_right fun _ _ => Step.down.inj).1 hsteps
  · rintro rfl
    rfl

theorem stepsBelow?_below (path : Path) (names : List Name) :
    path.stepsBelow? (path.below names) = some (names.map Step.down) := by
  simp [stepsBelow?, below, extend]

theorem fileName_below (path : Path) (names : List Name) (name : Name) :
    (path.below (names ++ [name])).fileName = name.text := by
  simp [fileName, below, extend, Step.text]

theorem toList_text {path : Path} (h : path.isAbsolute = true ∨ path.steps ≠ []) :
    path.text.toList
      = path.start.text.toList ++ ['/'].intercalate (path.steps.map fun s => s.text.toList) := by
  obtain ⟨start, steps⟩ := path
  cases start with
  | working =>
    cases steps with
    | nil => exact (h.elim nofun fun hne => absurd rfl hne)
    | cons first rest => simp [text, Function.comp_def]
  | top => simp [text, Function.comp_def]
  | topDoubled => simp [text, Function.comp_def]

theorem piecesBetween_intercalate_steps {steps : List Step} (h : steps ≠ []) :
    piecesBetween '/' (['/'].intercalate (steps.map fun s => s.text.toList))
      = steps.map fun s => s.text.toList := by
  refine piecesBetween_intercalate (by simpa using h) fun piece hpiece => ?_
  obtain ⟨step, -, rfl⟩ := List.mem_map.1 hpiece
  exact step.slash_notMem_text

theorem steps_eq_of_text_eq {p q : Path} (hstart : p.start = q.start)
    (habsolute : p.isAbsolute = true) (h : p.text = q.text) : p.steps = q.steps := by
  have hq : q.isAbsolute = true := by
    rw [isAbsolute, ← hstart]
    exact habsolute
  have hjoined : ['/'].intercalate (p.steps.map fun s => s.text.toList)
      = ['/'].intercalate (q.steps.map fun s => s.text.toList) := by
    have hlists := congrArg String.toList h
    rw [toList_text (.inl habsolute), toList_text (.inl hq), hstart] at hlists
    exact List.append_cancel_left hlists
  -- no piece is empty, so joined pieces are nothing only if there are none
  have hcut : ∀ steps : List Step, steps ≠ [] →
      piecesBetween '/' (['/'].intercalate (steps.map fun s => s.text.toList))
          = steps.map (fun s => s.text.toList) ∧
        ['/'].intercalate (steps.map fun s => s.text.toList) ≠ [] := by
    intro steps hsteps
    have hpieces := piecesBetween_intercalate_steps hsteps
    refine ⟨hpieces, fun hempty => ?_⟩
    rw [hempty] at hpieces
    obtain ⟨step, rest, rfl⟩ := List.exists_cons_of_ne_nil hsteps
    have hnothing : step.text.toList = [] := (List.cons.inj hpieces).1.symm
    exact step.text_ne_empty (String.toList_inj.1 (by simpa using hnothing))
  by_cases hp : p.steps = []
  · by_cases hq' : q.steps = []
    · rw [hp, hq']
    · rw [hp] at hjoined
      exact absurd hjoined.symm (hcut q.steps hq').2
  · by_cases hq' : q.steps = []
    · rw [hq'] at hjoined
      exact absurd hjoined (hcut p.steps hp).2
    · have hmaps : p.steps.map (fun s => s.text.toList) = q.steps.map fun s => s.text.toList := by
        rw [← (hcut p.steps hp).1, hjoined, (hcut q.steps hq').1]
      exact (List.map_inj_right fun a b hab =>
        Step.eq_of_text_eq (String.toList_inj.1 hab)).1 hmaps

/-- Paths from the top that start alike and are written alike are the same. -/
theorem eq_of_text_eq {p q : Path} (hstart : p.start = q.start)
    (habsolute : p.isAbsolute = true) (h : p.text = q.text) : p = q := by
  have hsteps := steps_eq_of_text_eq hstart habsolute h
  cases p
  cases q
  cases hstart
  cases hsteps
  rfl

theorem extend_inj_of_text_eq {path : Path} {more others : List Step}
    (habsolute : path.isAbsolute = true)
    (h : (path.extend more).text = (path.extend others).text) : more = others := by
  have hstart : (path.extend more).start = (path.extend others).start := rfl
  exact List.append_cancel_left (steps_eq_of_text_eq hstart habsolute h)

theorem below_inj_of_text_eq {path : Path} {names others : List Name}
    (habsolute : path.isAbsolute = true) (h : (path.below names).text = (path.below others).text) :
    names = others :=
  (List.map_inj_right fun _ _ => Step.down.inj).1 (extend_inj_of_text_eq habsolute h)

theorem intercalate_ne_cons (steps : List Step) (rest : List Char) :
    ['/'].intercalate (steps.map fun s => s.text.toList) ≠ '/' :: rest := by
  cases steps with
  | nil => nofun
  | cons step others =>
    cases hstep : step.text.toList with
    | nil => exact absurd (String.toList_inj.1 hstep) step.text_ne_empty
    | cons c chars =>
      have hc : c ≠ '/' := by
        rintro rfl
        exact step.slash_notMem_text (hstep ▸ List.mem_cons_self)
      intro h
      cases others with
      | nil =>
        simp only [List.map_cons, List.map_nil, hstep, List.intercalate_singleton] at h
        exact hc (List.cons.inj h).1
      | cons next more =>
        simp only [List.map_cons, hstep, List.intercalate_cons_cons, List.cons_append] at h
        exact hc (List.cons.inj h).1

theorem start_ofText_text {path : Path} (h : path.isAbsolute = true) :
    PathStart.ofText path.text = path.start := by
  have hsteps := intercalate_ne_cons path.steps
  have htext := toList_text (.inl h)
  unfold PathStart.ofText
  generalize ['/'].intercalate (path.steps.map fun s => s.text.toList) = joined at hsteps htext
  rw [htext]
  have hworking : path.start ≠ .working := by simpa [isAbsolute] using h
  cases joined with
  | nil =>
    cases hstart : path.start with
    | working => exact absurd hstart hworking
    | top => rfl
    | topDoubled => rfl
  | cons c rest =>
    have hc : c ≠ '/' := fun hc => hsteps rest (hc ▸ rfl)
    cases hstart : path.start with
    | working => exact absurd hstart hworking
    | top => simp [PathStart.text, hc]
    | topDoubled => simp [PathStart.text]

theorem filter_steps_slash (text : List Char) :
    ((piecesBetween '/' ('/' :: text)).map fun piece =>
        Step.ofText (String.ofList piece)).filter (· != .here)
      = ((piecesBetween '/' text).map fun piece =>
        Step.ofText (String.ofList piece)).filter (· != .here) := by
  rw [piecesBetween, if_pos rfl, List.map_cons]
  exact List.filter_cons_of_neg (by decide)

theorem filter_steps_intercalate {steps : List Step} (hsteps : .here ∉ steps) :
    ((piecesBetween '/' (['/'].intercalate (steps.map fun s => s.text.toList))).map fun piece =>
        Step.ofText (String.ofList piece)).filter (· != .here) = steps := by
  by_cases hnone : steps = []
  · subst hnone
    decide
  have hread : steps.map (fun s => Step.ofText (String.ofList s.text.toList)) = steps := by
    refine (List.map_congr_left fun s hs => ?_).trans (List.map_id _)
    rw [String.ofList_toList]
    exact Step.ofText_text fun hhere => hsteps (hhere ▸ hs)
  rw [piecesBetween_intercalate_steps hnone, List.map_map]
  refine (congrArg _ hread).trans (List.filter_eq_self.2 fun s hs => ?_)
  exact bne_iff_ne.2 fun hhere => hsteps (hhere ▸ hs)

/-- A path from the top that never stays is read back from its text. -/
theorem ofText_text {path : Path} (h : path.isAbsolute = true) (hsteps : .here ∉ path.steps) :
    ofText path.text = path := by
  have hread : (stepsOfText path.text).filter (· != .here) = path.steps := by
    have hjoined := filter_steps_intercalate hsteps
    rw [stepsOfText, toList_text (.inl h)]
    cases hstart : path.start with
    | working => simp [isAbsolute, hstart] at h
    | top => exact (filter_steps_slash _).trans hjoined
    | topDoubled =>
      exact (filter_steps_slash _).trans ((filter_steps_slash _).trans hjoined)
  rw [ofText, start_ofText_text h, hread]

theorem hasNull_eq_any (path : Path) :
    path.hasNull = path.steps.any fun step => step.text.toList.contains '\x00' := by
  by_cases h : path.isAbsolute = true ∨ path.steps ≠ []
  case neg =>
    obtain ⟨start, steps⟩ := path
    obtain ⟨hworking, hnil⟩ := not_or.1 h
    obtain rfl : steps = [] := Decidable.not_not.1 hnil
    cases start with
    | working => rfl
    | top => exact absurd rfl hworking
    | topDoubled => exact absurd rfl hworking
  have hstart : '\x00' ∉ path.start.text.toList := by
    cases path.start <;> decide
  rw [Bool.eq_iff_iff, hasNull, List.contains_iff_mem, toList_text h, List.mem_append,
    mem_intercalate_iff (by decide), List.any_eq_true]
  simp only [hstart, false_or, List.contains_iff_mem]
  constructor
  · rintro ⟨piece, hpiece, hnull⟩
    obtain ⟨step, hstep, rfl⟩ := List.mem_map.1 hpiece
    exact ⟨step, hstep, hnull⟩
  · rintro ⟨step, hstep, hnull⟩
    exact ⟨_, List.mem_map_of_mem hstep, hnull⟩

/-- The path to an entry holds no null character if neither the path to the folder nor the name
    does. -/
theorem hasNull_child {path : Path} {name : Name} (hpath : path.hasNull = false)
    (hname : name.hasNull = false) : (path.child name).hasNull = false := by
  rw [hasNull_eq_any] at hpath
  rw [hasNull_eq_any, child]
  simp only [List.any_append, hpath, List.any_cons, List.any_nil, Bool.or_false, Bool.false_or]
  exact hname

theorem hasNull_of_extend {path : Path} {more : List Step}
    (h : (path.extend more).hasNull = false) : path.hasNull = false := by
  rw [hasNull_eq_any] at h ⊢
  rw [extend, List.any_append, Bool.or_eq_false_iff] at h
  exact h.1

theorem isTooLong_of_extend {path : Path} {more : List Step}
    (h : (path.extend more).isTooLong = false) : path.isTooLong = false := by
  by_cases hwritten : path.isAbsolute = true ∨ path.steps ≠ []
  case neg =>
    obtain ⟨start, steps⟩ := path
    obtain ⟨hworking, hnil⟩ := not_or.1 hwritten
    obtain rfl : steps = [] := Decidable.not_not.1 hnil
    cases start with
    | working => decide +kernel
    | top => exact absurd rfl hworking
    | topDoubled => exact absurd rfl hworking
  have hwritten' : (path.extend more).isAbsolute = true ∨ (path.extend more).steps ≠ [] :=
    hwritten.imp_right (List.append_ne_nil_of_left_ne_nil · more)
  obtain ⟨rest, hrest⟩ : path.text.toList <+: (path.extend more).text.toList := by
    rw [toList_text hwritten, toList_text hwritten', extend, List.map_append,
      List.prefix_append_right_inj]
    exact intercalate_prefix '/' _ _
  have htext : (path.extend more).text = path.text ++ String.ofList rest := by
    rw [← String.toList_inj, ← hrest, String.toList_append, String.toList_ofList]
  unfold isTooLong at h ⊢
  rw [decide_eq_false_iff_not, htext, String.utf8ByteSize_append] at h
  rw [decide_eq_false_iff_not]
  omega

theorem isAbsolute_absolute {working : Path} (h : working.isAbsolute = true) (path : Path) :
    (absolute working path).isAbsolute = true := by
  have hstart : (absolute working path).start
      = if path.isAbsolute then path.start else working.start := by
    simp only [absolute]
    split <;> rfl
  rw [isAbsolute, hstart]
  split
  case isTrue hpath => exact hpath
  case isFalse => exact h

theorem here_notMem_collapse (absolute : Bool) (done rest : List Step) (h : .here ∉ done) :
    .here ∉ collapse absolute done rest := by
  fun_induction collapse absolute done rest with
  | case1 done => simpa using h
  | case2 done rest ih => exact ih h
  | case3 done name rest ih => exact ih (by simpa using h)
  | case4 name done rest ih => exact ih fun hmem => h (List.mem_cons_of_mem _ hmem)
  | case5 rest ih => exact ih (by cases absolute <;> simp)
  | case6 step done rest _ ih => exact ih (by simpa using h)

theorem here_notMem_absolute (working path : Path) : .here ∉ (absolute working path).steps := by
  simp only [absolute]
  exact here_notMem_collapse _ _ _ List.not_mem_nil

theorem exists_down_of_mem_collapse (done rest : List Step)
    (h : ∀ step ∈ done, ∃ name, step = .down name) :
    ∀ step ∈ collapse true done rest, ∃ name, step = .down name := by
  generalize habsolute : true = absolute
  fun_induction collapse absolute done rest with
  | case1 done => simpa using h
  | case2 done rest ih => exact ih h
  | case3 done name rest ih => exact ih (List.forall_mem_cons.2 ⟨⟨name, rfl⟩, h⟩)
  | case4 name done rest ih => exact ih (List.forall_mem_cons.1 h).2
  | case5 rest ih =>
    subst habsolute
    exact ih nofun
  | case6 step done rest hstep ih =>
    -- every step so far goes down
    obtain ⟨name, rfl⟩ := (List.forall_mem_cons.1 h).1
    exact absurd rfl (hstep name)

theorem collapse_of_down (absolute : Bool) (done rest : List Step)
    (h : ∀ step ∈ rest, ∃ name, step = .down name) :
    collapse absolute done rest = done.reverse ++ rest := by
  induction rest generalizing done with
  | nil => simp [collapse]
  | cons step rest ih =>
    obtain ⟨⟨name, rfl⟩, hrest⟩ := List.forall_mem_cons.1 h
    rw [collapse, ih _ hrest, List.reverse_cons, List.append_assoc, List.singleton_append]

/-- A path from the top that only goes down stands for itself. -/
theorem absolute_of_down {working path : Path} (habsolute : path.isAbsolute = true)
    (h : ∀ step ∈ path.steps, ∃ name, step = .down name) : absolute working path = path := by
  simp only [absolute, if_pos habsolute, collapse_of_down _ _ _ h, List.reverse_nil,
    List.nil_append]

theorem exists_down_of_mem_absolute {working : Path} (hworking : working.isAbsolute = true)
    (path : Path) : ∀ step ∈ (absolute working path).steps, ∃ name, step = .down name := by
  have hfull : (if path.isAbsolute then path
      else { working with steps := working.steps ++ path.steps }).isAbsolute = true := by
    split
    case isTrue h => exact h
    case isFalse => exact hworking
  simp only [absolute, hfull]
  exact exists_down_of_mem_collapse _ _ nofun

end Path

theorem Location.isAbsolute_path (location : Location) : location.path.isAbsolute = true := rfl

end SourceOutline

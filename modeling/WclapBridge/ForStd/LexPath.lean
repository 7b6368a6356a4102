/-!
# Lexical paths

Lexical normalisation of slash-separated paths: empty segments and `.` are
skipped and `..` removes the directory before it (at the root it does nothing).
A position in the directory tree is a stack of names, innermost directory
first. A relative path has a normal form of its own, which climbs some levels
and then descends through some names; walking along the path is applying that
normal form.

## Key results

- `walk_eq_apply`: walking along a path applies its relative normal form
- `suffix_walk_iff`: when a walk ends inside the directory where it started
-/

namespace LexPath

/-- One segment of a path. -/
inductive Segment (α : Type) where
  | stay
  | up
  | name (a : α)

variable {α : Type}

/-- Follow one segment from a directory, given innermost name first. -/
def step (dir : List α) : Segment α → List α
  | .stay => dir
  | .up => dir.tail
  | .name a => a :: dir

/-- Follow a list of segments. -/
def walk (dir : List α) (segments : List (Segment α)) : List α :=
  segments.foldl step dir

/-- A relative path in normal form: climb `ups` levels, then descend through
    `names` (innermost first). -/
structure Relative (α : Type) where
  ups : Nat
  names : List α

namespace Relative

/-- Extend a normal form by one segment. -/
def step (r : Relative α) : Segment α → Relative α
  | .stay => r
  | .up => match r.names with
    | [] => ⟨r.ups + 1, []⟩
    | _ :: names => ⟨r.ups, names⟩
  | .name a => ⟨r.ups, a :: r.names⟩

/-- The directory a normal form leads to. -/
def apply (r : Relative α) (dir : List α) : List α := r.names ++ dir.drop r.ups

/-- The normal form of a list of segments. -/
def ofSegments (segments : List (Segment α)) : Relative α := segments.foldl step ⟨0, []⟩

theorem step_apply (r : Relative α) (dir : List α) (s : Segment α) :
    LexPath.step (r.apply dir) s = (r.step s).apply dir := by
  cases s with
  | stay => rfl
  | name a => rfl
  | up =>
    obtain ⟨ups, names⟩ := r
    cases names with
    | nil =>
      -- there is no name to go back on, so the walk climbs out of `dir`
      simp [LexPath.step, step, apply]
    | cons n names => rfl

end Relative

theorem walk_append (dir : List α) (s t : List (Segment α)) :
    walk dir (s ++ t) = walk (walk dir s) t := List.foldl_append

/-- Walking along a path applies its relative normal form. -/
theorem walk_eq_apply (dir : List α) (segments : List (Segment α)) :
    walk dir segments = (Relative.ofSegments segments).apply dir := by
  -- by induction from any normal form that has been reached so far
  suffices ∀ r : Relative α,
      segments.foldl step (r.apply dir) = (segments.foldl Relative.step r).apply dir from
    this ⟨0, []⟩
  induction segments with
  | nil => exact fun r => rfl
  | cons s segments ih =>
    intro r
    simp only [List.foldl_cons]
    rw [Relative.step_apply, ih]

/-- A walk ends inside the directory where it started exactly when it descends
    again through the directories it climbed out of. -/
theorem suffix_walk_iff (dir : List α) (segments : List (Segment α)) :
    dir <:+ walk dir segments ↔
      dir.take (Relative.ofSegments segments).ups <:+ (Relative.ofSegments segments).names := by
  rw [walk_eq_apply, Relative.apply]
  -- the levels below those climbed out of are on both sides
  conv => lhs; lhs; rw [← List.take_append_drop (Relative.ofSegments segments).ups dir]
  exact List.suffix_append_self_iff

/-- A walk that never climbs above its start stays inside it. -/
theorem suffix_walk_of_ups_eq_zero (dir : List α) (segments : List (Segment α))
    (h : (Relative.ofSegments segments).ups = 0) : dir <:+ walk dir segments := by
  rw [suffix_walk_iff, h, List.take_zero]
  exact List.nil_suffix

/-! ## Slash-separated strings -/

/-- Whether a path string starts at the root. -/
def isAbsolute (path : List Char) : Bool := path.head? == some '/'

/-- The meaning of one piece between slashes. -/
def classify (piece : List Char) : Segment (List Char) :=
  if piece = [] ∨ piece = ['.'] then .stay
  else if piece = ['.', '.'] then .up
  else .name piece

/-- The segments of a path string. -/
def segments (path : List Char) : List (Segment (List Char)) :=
  (path.splitOn '/').map classify

/-- The directory stack of an absolute path string, lexically normalised. -/
def normal (path : List Char) : List (List Char) := walk [] (segments path)

/-- `path` lies in the directory `dir` (both absolute), after normalisation. -/
def Inside (dir path : List Char) : Prop := normal dir <:+ normal path

instance (dir path : List Char) : Decidable (Inside dir path) :=
  inferInstanceAs (Decidable (_ <:+ _))

theorem segments_append_slash (p q : List Char) :
    segments (p ++ '/' :: q) = segments p ++ segments q := by
  simp only [segments, List.splitOn_append_cons_self, List.map_append]

/-- Joining with a slash walks on from the first path. -/
theorem normal_append_slash (p q : List Char) :
    normal (p ++ '/' :: q) = walk (normal p) (segments q) := by
  rw [normal, segments_append_slash, walk_append, normal]

/-- A trailing slash does not change the directory. -/
theorem normal_append_trailing (p : List Char) : normal (p ++ ['/']) = normal p :=
  normal_append_slash p []

end LexPath

import RobotMulticam.Lib.Text

/-!
# Paths

A path is a text of bytes, and what counts about it are its components:
repeated slashes and a `.` inside do not matter. Paths are equal, and are
ordered, as their components are. This is how `std::path` sees a path on Unix.
-/

namespace RobotMulticam.Lib

inductive Component where
  | rootDir
  | curDir
  | parentDir
  | normal (name : List UInt8)
  deriving DecidableEq

namespace Component

/-- Where a component stands: by its kind, and names by their bytes. -/
def key : Component → ℕ ×ₗ List ℕ
  | .rootDir => toLex (0, [])
  | .curDir => toLex (1, [])
  | .parentDir => toLex (2, [])
  | .normal name => toLex (3, name.map UInt8.toNat)

theorem key_injective : key.Injective := by
  intro left right h
  have names := List.map_injective_iff.mpr fun _ _ => UInt8.toNat_inj.mp
  cases left <;> cases right <;> simp_all [key, names.eq_iff]

instance : LinearOrder Component := LinearOrder.lift' key key_injective

def isNormal : Component → Bool
  | .normal _ => true
  | _ => false

end Component

/-- What a segment between two slashes stands for. A `.` counts only in front
of a relative path. -/
def Component.ofSegment (segment : List UInt8) : Option Component :=
  if segment = [] ∨ segment = [0x2e] then none
  else if segment = [0x2e, 0x2e] then some .parentDir
  else some (.normal segment)

def components (path : List UInt8) : List Component :=
  let segments := path.splitOn 0x2f
  (if path.head? = some 0x2f then [.rootDir]
    else if segments.head? = some [0x2e] then [.curDir]
    else []) ++ segments.filterMap Component.ofSegment

/-- Whether the text of a path ends in a name: what has a slash or a dot behind
its last name is a directory. -/
def endsInName (path : List UInt8) : Bool :=
  ((path.splitOn 0x2f).getLast?.bind Component.ofSegment).any Component.isNormal

/-- A path from the root without two dots in a row has no component that leads
elsewhere. -/
theorem components_of_absolute {path : List UInt8} (hroot : path.head? = some 0x2f)
    (hdots : ¬ [0x2e, 0x2e] <:+: path) :
    (components path).head? = some .rootDir ∧
      ∀ component ∈ components path, component ≠ .parentDir ∧ component ≠ .curDir := by
  have hsegment : ∀ component ∈ (path.splitOn 0x2f).filterMap Component.ofSegment,
      component ≠ .parentDir ∧ component ≠ .curDir := by
    intro component hcomponent
    obtain ⟨segment, hmem, hof⟩ := List.mem_filterMap.mp hcomponent
    unfold Component.ofSegment at hof
    split at hof
    · cases hof
    · split at hof
      · rename_i hparent
        exact absurd (hparent ▸ Text.infix_of_mem_splitOn hmem) hdots
      · cases hof
        exact ⟨nofun, nofun⟩
  rw [components, if_pos hroot]
  refine ⟨rfl, ?_⟩
  intro component hcomponent
  rcases List.mem_cons.mp hcomponent with rfl | hcomponent
  · exact ⟨nofun, nofun⟩
  · exact hsegment component hcomponent

end RobotMulticam.Lib

import PathSeal.Config.Settings

/-!
# PathSeal.Proofs.Config.Settings

What settings that pass the check have (`validate_eq_ok_iff`). In particular a mapping
with a master key in the process comes with a seed for it.
-/

namespace PathSeal.Config

/-- The table of the settings is the one that the mapping text describes. -/
theorem keyMap_eq_ok_iff (c : Config) (map : KeyMap) :
    c.keyMap = .ok map ↔ KeyMap.parse c.keyMapping = .ok map := by
  rw [keyMap]
  cases KeyMap.parse c.keyMapping with
  | error e => exact iff_of_false nofun nofun
  | ok found =>
    show (Except.ok found : Except Error KeyMap) = .ok map ↔ _
    rw [Except.ok.injEq, Except.ok.injEq]

/-- Settings pass the check exactly if the mapping describes a table, the path header is a header,
no limit is zero, no token is blank, and there is a seed if some master key needs one. -/
theorem validate_eq_ok_iff (c : Config) :
    c.validate = .ok () ↔
      isBlank c.keyMapping = false ∧ ∃ map, c.keyMap = .ok map ∧
        Text.isHeaderName c.objectPathHeader ∧ c.kmsTimeoutMillis ≠ 0 ∧ c.kmsMaxAttempts ≠ 0 ∧
        c.maxObjectBytes ≠ 0 ∧ c.accessToken.any isBlank = false ∧
        (map.handles.any isInProcess → ∃ seed, c.seed = .ok seed) := by
  unfold validate
  cases hblank : isBlank c.keyMapping with
  | true => simp [bind, Except.bind, throw, throwThe, MonadExceptOf.throw]
  | false =>
    cases hmap : c.keyMap with
    | error e => simp [bind, Except.bind]
    | ok map =>
      simp only [bind, Except.bind, pure, Except.pure, throw, throwThe, MonadExceptOf.throw]
      cases hseed : c.seed <;> grind

end PathSeal.Config

import PrintProxy.Json.Config
import PrintProxy.Proofs.ForwardTarget
import PrintProxy.Proofs.IpAddress

/-!
# Stored configurations

A configuration that is stored is read again with all its settings, except that
the target is what is read of its text.
-/

namespace PrintProxy

namespace Json

/-- A stored number is read within every bound that it keeps. -/
theorem natural?_integer {greatest number : Nat} (fits : number ≤ greatest) :
    natural? greatest (.integer number) = some number := by
  have inBounds : 0 ≤ (number : Int) ∧ (number : Int) ≤ greatest := by omega
  rw [natural?, integer?, if_pos inBounds]
  rfl

end Json

theorem Duration.ofParts?_parts (duration : Duration) :
    ofParts? duration.seconds duration.nanoseconds = some duration := by
  obtain ⟨seconds, nanoseconds, isNormal⟩ := duration
  have small : nanoseconds.toNat < 1000000000 := UInt32.lt_iff_toNat_lt.mp isNormal
  have nothing : nanoseconds.toNat / 1000000000 = 0 := Nat.div_eq_of_lt small
  have fits : seconds.toNat < UInt64.size := seconds.toNat_lt
  have same : nanoseconds % 1000000000 = nanoseconds := UInt32.mod_eq_of_lt isNormal
  simp [ofParts?, nothing, fits, same]

theorem Duration.ofJson?_toJson (duration : Duration) :
    ofJson? duration.toJson = some duration := by
  have fields : duration.toJson.onlyFields? fieldNames =
      some [.integer duration.seconds.toNat, .integer duration.nanoseconds.toNat] := rfl
  have seconds := Json.natural?_integer (Nat.le_of_lt_succ duration.seconds.toNat_lt)
  have nanoseconds := Json.natural?_integer (Nat.le_of_lt_succ duration.nanoseconds.toNat_lt)
  simp only [ofJson?, fields, Option.bind_eq_bind, Option.bind_some, Json.uInt64?, seconds,
    Json.uInt32?, nanoseconds, Option.map_some, UInt64.ofNat_toNat, UInt32.ofNat_toNat]
  exact ofParts?_parts duration

theorem IpAddress.ofJson?_toJson (address : IpAddress) : ofJson? address.toJson = some address :=
  parse?_render address

namespace Config

open DirectoryPath

/-- Everything is read as it was stored, but the target by its text. -/
theorem ofJson?_toJson (config : Config) :
    ofJson? config.toJson =
      (ForwardTarget.parse config.target.render).toOption.map fun target =>
        { config with target } := by
  have fields : config.toJson.fields? fieldNames =
      some [config.bind.toJson, .integer config.port.toNat, config.target.toJson,
        .string config.printerName, config.timeout.toJson, .boolean config.recording] := rfl
  have target : ForwardTarget.ofJson? config.target.toJson =
      (ForwardTarget.parse config.target.render).toOption := rfl
  have port := Json.natural?_integer (Nat.le_of_lt_succ config.port.toNat_lt)
  simp only [ofJson?, fields, Option.bind_eq_bind, Option.bind_some, IpAddress.ofJson?_toJson,
    Json.uInt16?, port, Option.map_some, UInt16.ofNat_toNat, target, Duration.ofJson?_toJson,
    Json.string?, Json.boolean?]
  cases (ForwardTarget.parse config.target.render).toOption <;> rfl

/-- The configurations agree in everything, and their targets are the same. -/
structure Same (config other : Config) : Prop where
  bind : config.bind = other.bind
  port : config.port = other.port
  target : config.target.Same other.target
  printerName : config.printerName = other.printerName
  timeout : config.timeout = other.timeout
  recording : config.recording = other.recording

/-- A configuration is read as it was stored exactly if the text of its target is read as the
target, and this is so unless the target is a directory that loses its root.  Such a directory comes
back as a relative path, or not at all. -/
theorem ofJson?_toJson_same_iff (config : Config) (proper : config.target.IsProper) :
    ((∃ read, ForwardTarget.parse config.target.render = .ok read ∧ config.target.Same read) ↔
        ¬config.target.LosesRoot) ∧
      ((∃ read, ofJson? config.toJson = some read ∧ config.Same read) ↔
        ¬config.target.LosesRoot) ∧
      ∀ path, config.target = .directory path → isAbsolute path.toList →
        ((∃ read, ForwardTarget.parse config.target.render = .ok (.directory read) ∧
            isAbsolute read.toList = false) ↔
          BeginsWithPairs path.toList ∧ behindSlashes path.toList ≠ []) := by
  have textSurvives := ForwardTarget.parse_render_same_iff proper
  refine ⟨textSurvives, ?_, ?_⟩
  · rw [← textSurvives, ofJson?_toJson]
    constructor
    · rintro ⟨read, found, same⟩
      cases parsed : ForwardTarget.parse config.target.render with
      | error fault =>
          rw [parsed] at found
          cases found
      | ok target =>
          rw [parsed] at found
          cases found
          exact ⟨target, rfl, same.target⟩
    · rintro ⟨target, parsed, same⟩
      rw [parsed]
      exact ⟨_, rfl, ⟨rfl, rfl, same, rfl, rfl, rfl⟩⟩
  · intro path isDirectory absolute
    rw [isDirectory] at proper ⊢
    cases proper with
    | directory notEmpty => exact ForwardTarget.parse_render_relative_iff notEmpty absolute

/-- A configuration with a directory as its target. -/
def keepingIn (directory : String) : Config := { standard with target := .directory directory }

theorem ofJson?_toJson_same_iff_threeSlashes :
    ∃ read, ofJson? (keepingIn "///var/spool/ipp").toJson = some read ∧
      (keepingIn "///var/spool/ipp").Same read := by
  have proper : (keepingIn "///var/spool/ipp").target.IsProper := .directory (by decide)
  have keeps : ¬(keepingIn "///var/spool/ipp").target.LosesRoot := by
    rw [keepingIn, ForwardTarget.LosesRoot]
    decide
  exact (ofJson?_toJson_same_iff (keepingIn "///var/spool/ipp") proper).2.1.mpr keeps

/-- An absolute directory comes back as a relative one. -/
theorem ofJson?_toJson_twoSlashes :
    ForwardTarget.parse (ForwardTarget.directory "//tmp/IPP").render =
        .ok (.directory "tmp/IPP") ∧
      ofJson? (keepingIn "//tmp/IPP").toJson = some (keepingIn "tmp/IPP") ∧
      ¬(keepingIn "//tmp/IPP").Same (keepingIn "tmp/IPP") := by
  have parsed : ForwardTarget.parse (ForwardTarget.directory "//tmp/IPP").render =
      .ok (.directory "tmp/IPP") := by decide
  refine ⟨parsed, ?_, ?_⟩
  · have target : (keepingIn "//tmp/IPP").target.render =
        (ForwardTarget.directory "//tmp/IPP").render := rfl
    rw [ofJson?_toJson, target, parsed]
    rfl
  · intro same
    have absolute := same.target.1
    revert absolute
    decide

end Config

end PrintProxy

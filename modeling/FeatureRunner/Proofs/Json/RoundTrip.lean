import FeatureRunner.Command.Json
import FeatureRunner.Feature.Json
import FeatureRunner.Proofs.Files.Writing
import FeatureRunner.Proofs.Settings.Defaults
import FeatureRunner.Settings.Search

/-!
This module contains the way of values through their JSON text and back. Every value of every type
with a JSON form comes back as it was, and so do settings that were saved to a file; the main
statement is `readsBack_all`.
-/

namespace FeatureRunner

open FeatureRunner.Json
open FeatureRunner.Json.Decode

namespace Json

def ReadsBack (toJson : α → Json) (decode : Decoder α) : Prop :=
  ∀ a, decodeText decode (toJson a).pretty = .ok a ∧ decodeText decode (toJson a).compact = .ok a

theorem decodeText_write (hlayout : layout.IsBlank) (hj : j.Exact)
    (hdecode : decode (toDraft j) = .ok a)
    : decodeText decode (String.ofList (write layout 0 j)) = .ok a := by
  simp only [decodeText, read_write hlayout hj, hdecode]
  rfl

theorem readsBack_of_decode {toJson : α → Json} (hexact : ∀ a, (toJson a).Exact)
    (hdecode : ∀ a, decode (toDraft (toJson a)) = .ok a)
    : ReadsBack toJson decode := by
  intro a
  exact ⟨decodeText_write Layout.isBlank_indented (hexact a) (hdecode a),
    decodeText_write Layout.isBlank_dense (hexact a) (hdecode a)⟩

@[simp]
theorem exact_ofNat (n : UInt32) : Exact (Json.ofNat n.toNat) := by
  have hlt := n.toNat_lt
  rw [Json.ofNat, exact_number_iff, IsExact]
  omega

@[simp]
theorem isExact_toInt (i : Int32) : IsExact i.toInt := by
  have hlow := i.le_toInt
  have hhigh := i.toInt_lt
  rw [IsExact]
  omega

@[simp]
theorem exact_ofOption (a : Option String) : Exact (Json.ofOption .string a) := by
  cases a
  . exact .null
  . exact .string _

@[simp]
theorem exact_ofStrings (ss : List String) : Exact (Json.ofStrings ss) := by
  simp [Json.ofStrings]

@[simp]
theorem list_string_toDraft (ss : List String)
    : Decode.list Decode.string (toDraft (Json.ofStrings ss)) = .ok ss := by
  have hitems : items Decode.string (toDrafts (ss.map .string)) = .ok ss := by
    induction ss with
    | nil => simp [toDrafts, items]
    | cons s ss ih =>
      rw [List.map_cons, toDrafts, items, ih]
      rfl
  rw [Json.ofStrings, toDraft, Decode.list, hitems]
  rfl

end Json

namespace Section

theorem choice_kind (kind : SectionKind)
    : choice SectionKind.names (toDraft (.string kind.name)) = .ok kind := by
  cases kind <;> rfl

theorem ofList_toList (tags : TagSet) : TagSet.ofList tags.toList = tags := by
  ext tag
  rw [TagSet.mem_ofList, TagSet.mem_def]

theorem readsBack : ReadsBack toJson (decode .text) := by
  apply readsBack_of_decode
  . simp [toJson]
  . intro s
    simp [decode, toJson, record_toDraft_object, memberDrafts, Json.members, ofMembers,
      Partial.members, member, choice_kind, ofList_toList, Except.map, bind, Except.bind]
    rfl

end Section

@[simp]
theorem Path.exact_toJson (p : Path) : p.toJson.Exact := .string p.text

@[simp]
theorem Path.decode_toDraft (p : Path) : Path.decode (toDraft p.toJson) = .ok p := rfl

namespace TestTarget

theorem choice_kind (kind : TargetKind)
    : choice TargetKind.names (toDraft (.string kind.name)) = .ok kind := by
  cases kind <;> rfl

@[simp]
theorem exact_toJson (t : TestTarget) : t.toJson.Exact := by
  rcases t with ⟨_, _, _, _, line | line, _, _⟩ <;> simp [toJson, sectionLineMembers]

@[simp]
theorem decode_toDraft (t : TestTarget) (origin : Origin)
    : decode origin (toDraft t.toJson) = .ok t := by
  rcases t with ⟨_, _, _, _, line | line, _, _⟩ <;>
    simp [decode, toJson, sectionLineMembers, toDraft_object, memberDrafts, Json.members, record,
      ofMembers, Partial.members, member, choice_kind, Except.map, bind, Except.bind] <;>
    rfl

theorem readsBack : ReadsBack toJson (decode .text) :=
  readsBack_of_decode exact_toJson fun t => t.decode_toDraft .text

end TestTarget

namespace Request

theorem choice_mode (mode : Mode)
    : choice Mode.names (toDraft (.string mode.name)) = .ok mode := by
  cases mode <;> rfl

theorem readsBack : ReadsBack toJson (decode .text) := by
  apply readsBack_of_decode
  . simp [toJson]
  . intro r
    simp [decode, toJson, record_toDraft_object, memberDrafts, Json.members, ofMembers,
      Partial.members, member, choice_mode, Except.map, bind, Except.bind]
    rfl

end Request

namespace Project

theorem readsBack : ReadsBack toJson (decode .text) := by
  apply readsBack_of_decode
  . simp [toJson]
  . intro p
    simp [decode, toJson, record_toDraft_object, memberDrafts, Json.members, ofMembers,
      Partial.members, member, Except.map, bind, Except.bind]
    rfl

end Project

namespace Command

theorem readsBack : ReadsBack toJson (decode .text) := by
  apply readsBack_of_decode
  . simp [toJson]
  . intro c
    simp [decode, toJson, record_toDraft_object, memberDrafts, Json.members, ofMembers,
      Partial.members, member, Except.map, bind, Except.bind]
    rfl

end Command

namespace BuildSystem

theorem readsBack : ReadsBack toJson decode := by
  apply readsBack_of_decode
  . simp [toJson]
  . intro system
    cases system <;> rfl

end BuildSystem

@[simp]
theorem CoreSettings.record_toDraft (s : CoreSettings) (origin : Origin)
    : record origin members { } (toDraft s.toJson) = .ok s :=
  s.restores.record_toDraft origin

@[simp]
theorem RunnerSettings.record_toDraft (s : RunnerSettings) (origin : Origin)
    : record origin members missing (toDraft s.toJson) = .ok s :=
  s.restores.record_toDraft origin

@[simp]
theorem BuildDirectorySettings.record_toDraft (s : BuildDirectorySettings) (origin : Origin)
    : record origin members { } (toDraft s.toJson) = .ok s :=
  s.restores.record_toDraft origin

@[simp]
theorem JarSettings.record_toDraft (s : JarSettings) (origin : Origin)
    : record origin members missing (toDraft s.toJson) = .ok s :=
  s.restores.record_toDraft origin

@[simp]
theorem NodeSettings.record_toDraft (s : NodeSettings) (origin : Origin)
    : record origin members missing (toDraft s.toJson) = .ok s :=
  s.restores.record_toDraft origin

@[simp]
theorem DirectSettings.record_toDraft (s : DirectSettings) (origin : Origin)
    : record origin members missing (toDraft s.toJson) = .ok s :=
  s.restores.record_toDraft origin

@[simp]
theorem BuildToolSettings.record_toDraft (s : BuildToolSettings) (origin : Origin)
    : record origin members missing (toDraft s.toJson) = .ok s :=
  s.restores.record_toDraft origin

@[simp]
theorem ReportSettings.record_toDraft (s : ReportSettings) (origin : Origin)
    : record origin members missing (toDraft s.toJson) = .ok s :=
  s.restores.record_toDraft origin

@[simp]
theorem DebuggerSettings.record_toDraft (s : DebuggerSettings) (origin : Origin)
    : record origin members missing (toDraft s.toJson) = .ok s :=
  s.restores.record_toDraft origin

namespace Settings

theorem exact_toJson (s : Settings) : s.toJson.Exact := by
  simp [toJson, CoreSettings.toJson, RunnerSettings.toJson, BuildDirectorySettings.toJson,
    JarSettings.toJson, NodeSettings.toJson, DirectSettings.toJson, BuildToolSettings.toJson,
    ReportSettings.toJson, DebuggerSettings.toJson, argsJson]

theorem decode_toDraft (s : Settings) (origin : Origin)
    : decode origin (toDraft s.toJson) = .ok s := by
  simp [decode, toJson, record_toDraft_object, memberDrafts, Json.members, ofMembers, members,
    member, Except.map]

theorem readsBack : ReadsBack toJson (decode .text) :=
  readsBack_of_decode exact_toJson fun s => s.decode_toDraft .text

theorem write_of_saveFile {s : Settings} (h : s.saveFile root cwd file = .ok root')
    : Files.write root cwd file s.toText.toUTF8 = .ok root' := by
  unfold saveFile at h
  cases hwrite : Files.write root cwd file s.toText.toUTF8 with
  | error f =>
    rw [hwrite] at h
    cases h
  | ok written =>
    rw [hwrite] at h
    cases h
    rfl

/-- Settings that were saved are loaded again, unless a device took them. -/
theorem loadFile_saveFile {s : Settings} (h : s.saveFile root cwd file = .ok root')
    (hdevice : ∀ names d, Files.find root cwd file = .ok names → root.at? names ≠ some (.device d))
    : loadFile (Files.readText root' cwd) file = .ok s := by
  have hwrite := write_of_saveFile h
  rw [loadFile, Files.readText_write hwrite hdevice]
  simp only [toText, ofText, (readsBack s).1]
  rfl

end Settings

/--
Everything that is written as JSON is read back as it was, from either layout, and settings also by
way of a file.
-/
theorem readsBack_all
    : ReadsBack Settings.toJson (Settings.decode .text)
      ∧ ReadsBack Section.toJson (Section.decode .text)
      ∧ ReadsBack TestTarget.toJson (TestTarget.decode .text)
      ∧ ReadsBack Request.toJson (Request.decode .text)
      ∧ ReadsBack Project.toJson (Project.decode .text)
      ∧ ReadsBack Command.toJson (Command.decode .text)
      ∧ ReadsBack BuildSystem.toJson BuildSystem.decode
      ∧ ∀ (s : Settings) (root root' : Node) (cwd : List String) (file : Path),
        s.saveFile root cwd file = .ok root' →
        (∀ names d, Files.find root cwd file = .ok names → root.at? names ≠ some (.device d)) →
        Settings.loadFile (Files.readText root' cwd) file = .ok s :=
  ⟨Settings.readsBack, Section.readsBack, TestTarget.readsBack, Request.readsBack,
    Project.readsBack, Command.readsBack, BuildSystem.readsBack,
    fun _ _ _ _ _ => Settings.loadFile_saveFile⟩

theorem readsBack_all_disabled
    : ∃ root', Settings.saveFile
          { jar := { commandLineArgs := none }, node := { commandLineArgs := some "" } }
          .emptyDirectory [] ⟨"settings.json"⟩ = .ok root'
      ∧ Settings.loadFile (Files.readText root' []) ⟨"settings.json"⟩
        = .ok { jar := { commandLineArgs := none }, node := { commandLineArgs := some "" } } := by
  have hsave (s : Settings) : s.saveFile .emptyDirectory [] ⟨"settings.json"⟩
      = .ok (.directory true [("settings.json", .plainFile s.toText.toUTF8)] .folder) := by
    have hmoves : Files.moves ⟨"settings.json"⟩ = [.down "settings.json"] := by decide
    have hlocate : Files.locate .emptyDirectory [] ⟨"settings.json"⟩
        = .ok (.vacant [] "settings.json" false) := by
      apply Files.Walkable.locate_of_way ⟨by decide, by decide, by decide⟩
      rw [hmoves]
      exact .missing ⟨_, rfl, rfl⟩ rfl (by decide) rfl
    have hslash : Files.endsWithSlash ⟨"settings.json"⟩ = false := by decide
    have hwritable : Files.writable .emptyDirectory [] ⟨"settings.json"⟩
        = .ok ["settings.json"] := by
      simp [Files.writable, hslash, hlocate, Files.sealFault?]
    rw [Settings.saveFile, Files.write, hwritable]
    rfl
  refine ⟨_, hsave _, ?_⟩
  obtain ⟨-, -, -, -, -, -, -, hload⟩ := readsBack_all
  refine hload _ _ _ _ _ (hsave _) ?_
  intro names d _
  cases names <;> simp [Node.emptyDirectory, Node.child?]

end FeatureRunner

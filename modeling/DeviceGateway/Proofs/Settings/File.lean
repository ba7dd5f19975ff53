import DeviceGateway.Proofs.Files.Tree
import DeviceGateway.Proofs.Settings.Schema
import DeviceGateway.Proofs.Text.Utf8
import DeviceGateway.Settings.File

/-
  Settings that are saved are loaded again. At a path where a file can be written, saving settings
  whose second counts the format has succeeds, and loading gives equal settings, whatever their
  texts hold; other settings are refused, and every file stays as it was.
-/

namespace DeviceGateway.Settings

open Files

/-- A file can be written at a path: the directories on the way can be made, and with them there the
path leads to a place for a file. -/
def Writable (files : Tree) (path : String) : Prop :=
  ∃ made, makeWay files path = (made, .ok ()) ∧
    ∃ parent name, Tree.Target made path parent name

variable {files made : Tree} {path : String} {s : Settings}

theorem makeWay_extends (files : Tree) (path : String) :
    Tree.Extends files (makeWay files path).1 := by
  unfold makeWay
  dsimp only
  split
  · exact Tree.Extends.refl files
  · exact Tree.makeDirectories_extends files _ _

/-- Settings within bounds are saved and loaded again. -/
theorem save_load_of_writable (hpath : Writable files path)
    (hsmall : s.timeouts.isWritable = true) :
    ∃ after, save files path s = (after, .ok ()) ∧ load after path = .ok s := by
  obtain ⟨made, hmade, parent, name, htarget⟩ := hpath
  obtain ⟨text, htext⟩ : ∃ text, s.document? = some text := by
    rw [document?, if_pos hsmall]
    exact ⟨_, rfl⟩
  have hwrite : made.write path (utf8 text) =
      .ok (made.put (parent ++ [name]) (.file (utf8 text))) :=
    Tree.write_eq_ok.mpr ⟨parent, name, htarget, rfl⟩
  refine ⟨made.put (parent ++ [name]) (.file (utf8 text)), ?_, ?_⟩
  · rw [save, hmade]
    simp only [htext, hwrite]
  · rw [load, Tree.read_write hwrite]
    simp only [Utf8.decode_utf8, ofDocument_document htext]

/-- Settings beyond the bounds are refused, with no more done than directories made. -/
theorem save_of_not_writable (hmade : makeWay files path = (made, .ok ()))
    (hlarge : s.timeouts.isWritable = false) : save files path s = (made, .error .unwritable) := by
  rw [save, hmade]
  simp only [document?, hlarge]
  rfl

theorem isWritable_iff (t : Timeouts) : t.isWritable = true ↔
    ∀ n ∈ [t.httpIdle, t.shutdownStage, t.channelWrite, t.tokenTtl], n.toNat ≤ 2 ^ 63 - 1 := by
  rw [Timeouts.isWritable, List.all_eq_true]
  refine forall_congr' fun n => imp_congr_right fun _ => ?_
  rw [decide_eq_true_eq]
  omega

/-- At a path where a file can be written, settings whose second counts are at most `2^63 - 1` are
saved, and loading gives equal settings back. If a count is beyond that, saving is refused; then all
files are just as they were, and what the path finds among them it still finds. -/
theorem saved_settings_load (hpath : Writable files path) :
    ((∀ n ∈ [s.timeouts.httpIdle, s.timeouts.shutdownStage, s.timeouts.channelWrite,
        s.timeouts.tokenTtl], n.toNat ≤ 2 ^ 63 - 1) →
      ∃ after, save files path s = (after, .ok ()) ∧ load after path = .ok s) ∧
    ((∃ n ∈ [s.timeouts.httpIdle, s.timeouts.shutdownStage, s.timeouts.channelWrite,
        s.timeouts.tokenTtl], 2 ^ 63 - 1 < n.toNat) →
      ∃ after, save files path s = (after, .error .unwritable) ∧
        (∀ place body, after.at? place = some (.file body) ↔
          files.at? place = some (.file body)) ∧
        ∀ body, files.read path = .ok body → after.read path = .ok body) := by
  refine ⟨fun hsmall => save_load_of_writable hpath ((isWritable_iff _).mpr hsmall), ?_⟩
  rintro ⟨n, hn, hlarge⟩
  obtain ⟨made, hmade, -⟩ := hpath
  have hextends : Tree.Extends files made := by
    have h := makeWay_extends files path
    rwa [hmade] at h
  have hrefused : s.timeouts.isWritable = false := by
    cases hall : s.timeouts.isWritable with
    | false => rfl
    | true => exact absurd ((isWritable_iff _).mp hall n hn) (Nat.not_le.mpr hlarge)
  exact ⟨made, save_of_not_writable hmade hrefused, hextends.files, fun _ => hextends.read⟩

/-- Settings with line ends, quotes and blanks in their texts, and no account. -/
def knotty : Settings :=
  { server := { certPath := "a\\b", keyPath := "'''", wwwRoot := some " \r\n\t" }
    timeouts := { tokenTtl := 0x7FFFFFFFFFFFFFFF }
    discovery := { nodeName := "\"\n\x00''\"\"\"", externalHost := "" }
    users := [] }

theorem knotty_loads :
    (∃ after, save {} "etc/home.toml" knotty = (after, .ok ()) ∧
      load after "etc/home.toml" = .ok knotty) ∧
    ∃ after, save {} "etc/home.toml" { timeouts := { httpIdle := 0x8000000000000000 } } =
      (after, .error .unwritable) ∧
      (∀ place body, after.at? place = some (.file body) ↔
        Tree.at? {} place = some (.file body)) ∧
      ∀ body, Tree.read {} "etc/home.toml" = .ok body → after.read "etc/home.toml" = .ok body := by
  have hpath : Writable {} "etc/home.toml" :=
    ⟨⟨[(["etc"], .directory)]⟩, rfl, ["etc"], "home.toml", rfl, by decide, rfl, by decide,
      by decide, by decide, by decide, by decide⟩
  exact ⟨(saved_settings_load hpath).1 ((isWritable_iff _).mp (by decide)),
    (saved_settings_load hpath).2 ⟨0x8000000000000000, List.mem_cons_self, by decide⟩⟩

end DeviceGateway.Settings

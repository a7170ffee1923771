import VehicleMarket.Proofs.Command.Outcome
import VehicleMarket.Proofs.Market.Service
import VehicleMarket.Proofs.Storage.Apart

/-!
What the reading commands leave of the snapshot. A check leaves the disk as it is. An export writes
one file, and nothing keeps that file from being the snapshot, or the directories above it from
bringing a snapshot into being that was not there: it leaves the snapshot just when its write is
apart from the path of the snapshot.
-/
namespace VehicleMarket

open Disk (Apart SameAt)

theorem Snapshot.load_of_sameAt {snapshot : Snapshot} {disk later : Disk}
    (h : SameAt (snapshot.folder.fullPath snapshot.fileName) disk later) (clock : Clock) :
    snapshot.load later clock = snapshot.load disk clock := by
  have hexists := h.exists_eq
  unfold load Folder.contains Folder.read Disk.read
  rw [hexists]
  split
  · rename_i hthere
    obtain ⟨entry, hentry⟩ := Disk.exists_iff.mp hthere
    rw [hentry, (h entry).mpr hentry]
  · rfl

theorem Snapshot.stat_ne_archive {snapshot : Snapshot} {disk : Disk} {clock : Clock}
    {catalog : Catalog} (hload : (snapshot.load disk clock).1 = .ok catalog)
    (members : List (String × String)) :
    disk.stat (snapshot.folder.fullPath snapshot.fileName) ≠ .ok (.file (.archive members)) := by
  intro hstat
  unfold load Folder.contains Folder.read Disk.read Disk.exists? at hload
  simp only [hstat, if_true, decodeContent] at hload
  exact absurd hload (by simp)

namespace Command

def snapshotFile (settings : Settings) (snapshot : Option String) : String :=
  let stored := snapshotAt settings snapshot
  stored.folder.fullPath stored.fileName

def bundleFile (settings : Settings) (out : Option String) : String :=
  Folder.fullPath ⟨out.getD settings.exportDir⟩ settings.bundleName

/-- The path of the snapshot names what it named, and the snapshot is loaded as it was. -/
def KeepsSnapshot (settings : Settings) (snapshot : Option String) (disk later : Disk) : Prop :=
  SameAt (snapshotFile settings snapshot) disk later ∧
    ∀ clock, (snapshotAt settings snapshot).load later clock =
      (snapshotAt settings snapshot).load disk clock

theorem keepsSnapshot_iff {settings : Settings} {snapshot : Option String} {disk later : Disk} :
    KeepsSnapshot settings snapshot disk later ↔
      SameAt (snapshotFile settings snapshot) disk later :=
  ⟨And.left, fun h => ⟨h, Snapshot.load_of_sameAt h⟩⟩

variable (settings : Settings) (setting : Setting) (snapshot : Option String)

theorem disk_runCheck (lenient : Bool) :
    (runCheck settings setting snapshot lenient).disk = setting.disk := by
  unfold runCheck
  dsimp only
  generalize marketFor settings setting.thisYear snapshot settings.exportDir lenient = market
  have hdisk := market.load_disk ⟨setting.disk, setting.clock⟩
  cases hload : (market.load ⟨setting.disk, setting.clock⟩).1 with
  | error failure =>
    rw [Market.check_of_load_error setting.thisYear hload]
    exact (fruitless_stopped failure _).disk.trans hdisk
  | ok catalog =>
    rw [Market.check_of_load setting.thisYear hload]
    exact hdisk

/-- An export that cannot load the snapshot comes to nothing; any other writes one file. -/
theorem runBundle_cases (out : Option String) :
    (runBundle settings setting snapshot out).Fruitless setting.disk ∨
    ∃ catalog, ((snapshotAt settings snapshot).load setting.disk setting.clock).1 = .ok catalog ∧
      ∃ result, Folder.write ⟨out.getD settings.exportDir⟩ settings.bundleName
          (.archive catalog.bundle) setting.disk =
            (result, (runBundle settings setting snapshot out).disk) ∧
        ((runBundle settings setting snapshot out).exitCode = 0 → result = .ok ()) := by
  obtain ⟨market, hmarket⟩ : ∃ market, market =
      marketFor settings setting.thisYear snapshot (out.getD settings.exportDir) false := ⟨_, rfl⟩
  have hsnapshot : market.snapshot = snapshotAt settings snapshot := by rw [hmarket]; rfl
  have hexports : market.exports = ⟨out.getD settings.exportDir⟩ := by rw [hmarket]; rfl
  have hname : market.bundleName = settings.bundleName := by rw [hmarket]; rfl
  unfold runBundle
  dsimp only
  rw [← hmarket, ← hsnapshot, ← hexports, ← hname]
  have hdisk := market.load_disk ⟨setting.disk, setting.clock⟩
  have hfst := market.load_fst ⟨setting.disk, setting.clock⟩
  cases hload : (market.load ⟨setting.disk, setting.clock⟩).1 with
  | error failure =>
    rw [Market.exportBundle_of_load_error hload]
    have hstopped := fruitless_stopped failure (market.load ⟨setting.disk, setting.clock⟩).2.disk
    exact .inl ⟨hstopped.exitCode, hstopped.output, hstopped.disk.trans hdisk⟩
  | ok catalog =>
    refine .inr ⟨catalog, hfst.symm.trans hload, ?_⟩
    rw [Market.exportBundle_of_load hload]
    rcases market.exports.write market.bundleName (.archive catalog.bundle) setting.disk with
      ⟨fault | _, disk⟩
    · have hstopped := fruitless_stopped (.problem (.io fault)) disk
      exact ⟨_, congrArg _ hstopped.disk.symm, fun hzero => absurd hzero hstopped.exitCode⟩
    · exact ⟨_, rfl, fun _ => rfl⟩

/-- For all settings, all arguments and every disk, a check leaves the whole disk as it is. An
export whose write is apart from the path of the snapshot keeps the snapshot, whether it succeeds or
not; and one that succeeds keeps it only then. -/
theorem reading_keeps_snapshot :
    (∀ lenient, ((Command.check snapshot lenient).run settings setting).disk = setting.disk) ∧
    ∀ out,
      (Apart setting.disk (bundleFile settings out) (snapshotFile settings snapshot) →
        KeepsSnapshot settings snapshot setting.disk
          ((Command.bundle snapshot out).run settings setting).disk) ∧
      (((Command.bundle snapshot out).run settings setting).exitCode = 0 →
        KeepsSnapshot settings snapshot setting.disk
          ((Command.bundle snapshot out).run settings setting).disk →
        Apart setting.disk (bundleFile settings out) (snapshotFile settings snapshot)) := by
  refine ⟨disk_runCheck settings setting snapshot, ?_⟩
  intro out
  have hrun : (Command.bundle snapshot out).run settings setting =
      runBundle settings setting snapshot out := rfl
  rw [keepsSnapshot_iff, hrun]
  rcases runBundle_cases settings setting snapshot out with
    hfruitless | ⟨catalog, hload, result, hwrite, hresult⟩
  · constructor
    · intro _
      rw [hfruitless.disk]
      exact fun _ => Iff.rfl
    · intro hzero
      exact absurd hzero hfruitless.exitCode
  · constructor
    · intro hapart
      have hsame := Folder.sameAt_write hapart (.archive catalog.bundle)
      rw [hwrite] at hsame
      dsimp only at hsame
      exact hsame
    · intro hzero hsame
      obtain rfl := hresult hzero
      exact Folder.apart_of_write hwrite hsame (Snapshot.stat_ne_archive hload catalog.bundle)

def dataSetting (name text : String) : Setting :=
  ⟨[], 2025, .fixed .epoch, ⟨[], [(["data"], .directory), (["data", name], .file (.ofText text))]⟩⟩

/-- With the standard settings, an export succeeds and keeps a snapshot that is there, so that the
two are apart. -/
theorem standard_export_keeps_snapshot :
    ((Command.bundle none none).run .standard (dataSetting "market.json" "\x7b\x7d")).exitCode = 0 ∧
      KeepsSnapshot .standard none (dataSetting "market.json" "\x7b\x7d").disk
        ((Command.bundle none none).run .standard (dataSetting "market.json" "\x7b\x7d")).disk ∧
      Apart (dataSetting "market.json" "\x7b\x7d").disk (bundleFile .standard none)
        (snapshotFile .standard none) := by
  have hzero : ((Command.bundle none none).run .standard
      (dataSetting "market.json" "\x7b\x7d")).exitCode = 0 := by decide +kernel
  have hapart : Apart (dataSetting "market.json" "\x7b\x7d").disk (bundleFile .standard none)
      (snapshotFile .standard none) :=
    Disk.apart_of_names (by decide +kernel) (by decide +kernel)
  obtain ⟨_, hexport⟩ := reading_keeps_snapshot .standard
    (dataSetting "market.json" "\x7b\x7d") none
  have hkeeps := (hexport none).1 hapart
  exact ⟨hzero, hkeeps, (hexport none).2 hzero hkeeps⟩

def bundledSettings : Settings :=
  { Settings.standard with snapshotFile := defaultBundleName }

def missingSetting : Setting :=
  ⟨[], 2025, .fixed .epoch, ⟨[], [(["market.json"], .file (.ofText "\x7b\x7d"))]⟩⟩

/-- With settings that are accepted, an export can put the bundle in the place of the snapshot, and
it can bring a snapshot into being by making a directory that its path goes through. -/
theorem export_changes_snapshot :
    ¬ (∀ (settings : Settings) (setting : Setting) (snapshot out : Option String),
      settings.validate setting.thisYear = .ok () →
      setting.disk.exists? (snapshotFile settings snapshot) = true →
      KeepsSnapshot settings snapshot setting.disk
        ((Command.bundle snapshot out).run settings setting).disk) ∧
    ¬ ∀ (settings : Settings) (setting : Setting) (snapshot out : Option String),
      settings.validate setting.thisYear = .ok () →
      setting.disk.exists? (snapshotFile settings snapshot) = false →
      KeepsSnapshot settings snapshot setting.disk
        ((Command.bundle snapshot out).run settings setting).disk := by
  constructor
  · intro hclaim
    have hkeeps := hclaim bundledSettings (dataSetting defaultBundleName "\x7b\x7d") none none
      (by decide +kernel) (by decide +kernel)
    have hbefore : (dataSetting defaultBundleName "\x7b\x7d").disk.stat
        (snapshotFile bundledSettings none) = .ok (.file (.ofText "\x7b\x7d")) := by decide +kernel
    have hafter : ((Command.bundle none none).run bundledSettings
        (dataSetting defaultBundleName "\x7b\x7d")).disk.stat (snapshotFile bundledSettings none) ≠
          .ok (.file (.ofText "\x7b\x7d")) := by decide +kernel
    exact hafter ((hkeeps.1 _).mpr hbefore)
  · intro hclaim
    have hkeeps := hclaim .standard missingSetting (some "new/../market.json") (some "new")
      (by decide +kernel) (by decide +kernel)
    have hbefore : missingSetting.disk.exists?
        (snapshotFile .standard (some "new/../market.json")) = false := by decide +kernel
    have hafter : ((Command.bundle (some "new/../market.json") (some "new")).run .standard
        missingSetting).disk.exists? (snapshotFile .standard (some "new/../market.json")) =
          true := by decide +kernel
    rw [hkeeps.1.exists_eq, hbefore] at hafter
    exact absurd hafter Bool.false_ne_true

end Command

end VehicleMarket

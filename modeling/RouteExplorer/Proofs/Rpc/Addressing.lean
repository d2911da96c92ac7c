import RouteExplorer.Proofs.Index.WellFormed
import RouteExplorer.Proofs.Rpc.Effect
import RouteExplorer.Proofs.Workspace.Canonical

namespace RouteExplorer

namespace Explorer

variable {explorer : Explorer} {controller : Controller}

theorem Reached.listed_of_shown (reached : explorer.Reached)
    (shown : controller ∈ (explorer.step .refresh).session.store.snapshot.controllers) :
    ∃ file ∈ explorer.session.index.files explorer.disk, controller.sourceFile.same file = true := by
  have found : controller ∈ (explorer.session.index.scan explorer.disk).1.controllers :=
    explorer.session.refresh_snapshot explorer.disk ▸ shown
  exact reached.store.filed.listed_of_found found

theorem Reached.isEligible_of_shown (reached : explorer.Reached) (sound : explorer.disk.Sound)
    (shown : controller ∈ (explorer.step .refresh).session.store.snapshot.controllers) :
    (explorer.step .refresh).session.isEligible controller.sourceFile = true := by
  obtain ⟨file, listed, names_file⟩ := reached.listed_of_shown shown
  obtain ⟨_, frame⟩ := explorer.session.index.scan_frame explorer.disk
  have index := (explorer.session.refresh_index explorer.disk).trans frame
  have kept : (explorer.step .refresh).session.isEligible controller.sourceFile =
      explorer.session.index.isEligible controller.sourceFile :=
    congrArg (·.isEligible controller.sourceFile) index
  rw [kept, FileIndex.isEligible, isEligible_congr _ _ names_file]
  exact FileIndex.isEligible_of_lists (FileIndex.lists_of_mem_files sound listed)

end Explorer

namespace Rpc

variable {disk : Disk} {session : Session}

theorem spelled_of_isAbsolute (roots : List FilePath) {given : FilePath} (absolute : given.isAbsolute = true) :
    spelled roots given = given := by
  cases roots <;> simp [spelled, FilePath.join, absolute]

/-- All paths that lead to a file are taken for a path of it exactly when that one has no detours. -/
theorem met_iff_isDirect (sound : disk.Sound) (roots : List FilePath) {file : FilePath} {place : Place}
    (leads : disk.resolve? file = some place) :
    (∀ given, disk.resolve? (spelled roots given) = some place →
      (disk.canonical (spelled roots given)).same file = true) ↔ file.isDirect = true := by
  have named := sound.named_of_resolve? leads
  constructor
  · intro met
    -- of the paths that lead to the file, the one without detours settles it
    have absolute : (Disk.pathOf place).isAbsolute = true := by
      simp [FilePath.isAbsolute_eq, Disk.components_pathOf named]
    have goes := sound.resolve?_pathOf leads
    have direct := met (Disk.pathOf place)
    rw [spelled_of_isAbsolute roots absolute, Disk.canonical_of_resolve? goes] at direct
    rw [← FilePath.isDirect_congr (direct goes)]
    exact Disk.isDirect_pathOf named
  · intro direct given goes
    rw [Disk.canonical_of_resolve? goes, FilePath.same_comm]
    exact sound.same_pathOf_of_isDirect direct leads

/-- Behind a refresh of a session that was opened over some roots, whatever happened since, the path of a file
that is shown is met by every path that leads to the file, and then is eligible, exactly when the file is below
a root that was there as the session was opened or that was given without detours. -/
theorem met_after_refresh_iff (sound : disk.Sound) {roots : List FilePath} {config : Config}
    (opened : Session.ofRoots disk roots config = .ok session) (actions : List Explorer.Action) :
    let explorer := (Explorer.run ⟨disk, session⟩ actions).step .refresh
    let known := explorer.session.index.roots
    ∀ controller ∈ explorer.session.store.snapshot.controllers, ∀ place,
      explorer.disk.resolve? controller.sourceFile = some place →
        ((∀ given, explorer.disk.resolve? (spelled known given) = some place →
            (resolvePath explorer.disk explorer.session given).same controller.sourceFile = true ∧
              explorer.session.isEligible (resolvePath explorer.disk explorer.session given) = true) ↔
          ∃ root ∈ roots, (disk.pathExists root = true ∨ root.isDirect = true) ∧
            ((disk.canonical root).namesBelow? controller.sourceFile).isSome = true) := by
  intro explorer known controller shown place leads
  let before := Explorer.run ⟨disk, session⟩ actions
  have now_sound : before.disk.Sound := Explorer.sound_run sound actions
  have reached : before.Reached := (Explorer.reached_of_ofRoots sound opened).run actions
  have met : (∀ given, explorer.disk.resolve? (spelled known given) = some place →
      (resolvePath explorer.disk explorer.session given).same controller.sourceFile = true ∧
        explorer.session.isEligible (resolvePath explorer.disk explorer.session given) = true) ↔
      controller.sourceFile.isDirect = true := by
    have eligible := reached.isEligible_of_shown now_sound shown
    rw [← met_iff_isDirect now_sound known leads]
    refine forall₂_congr fun given goes => and_iff_left_of_imp fun meets => ?_
    exact (isEligible_congr _ _ meets).trans eligible
  have roots_eq : before.session.index.roots = roots.map disk.canonical := by
    obtain ⟨_, _, _, index⟩ := Session.index_of_ofRoots opened
    exact (Explorer.roots_run _ actions).trans (congrArg FileIndex.roots index)
  obtain ⟨file, listed, names_file⟩ := reached.listed_of_shown shown
  rw [FileIndex.files, roots_eq] at listed
  rw [met]
  exact sound.isDirect_listed_iff now_sound listed names_file

open Explorer (controllerText)
open Glob (PatternSet)

def earlyDisk : Disk := ⟨["w"], [(["w"], .directory), (["w", "kept"], .directory)]⟩

def lateDisk : Disk :=
  { earlyDisk with entries := earlyDisk.entries ++
      [(["w", "late"], .directory), (["w", "late", "a.ts"], .text (controllerText "Cats" ""))] }

def openedEarly (roots : List FilePath) : Session :=
  let patterns := (PatternSet.parse ["*.ts"] []).toOption.getD ⟨[], [], []⟩
  ((Session.ofStore (.ofIndex ⟨roots.map earlyDisk.canonical, patterns, .empty, .empty⟩)).refresh earlyDisk).2

/-- An absolute root that is made later still has its files met, also by paths from the first root. -/
theorem lateRoot_met :
    let roots : List FilePath := [⟨"kept/"⟩, ⟨"/w//late"⟩]
    earlyDisk.Sound ∧ Session.ofRoots earlyDisk roots ⟨["*.ts"], [], 300⟩ = .ok (openedEarly roots) ∧
      let explorer := (Explorer.run ⟨earlyDisk, openedEarly roots⟩
        [.changeDisk lateDisk (by decide)]).step .refresh
      explorer.session.store.snapshot.controllers.map Controller.sourceFile = [⟨"/w//late/a.ts"⟩] ∧
        ∀ controller ∈ explorer.session.store.snapshot.controllers,
          explorer.disk.resolve? controller.sourceFile = some ["w", "late", "a.ts"] ∧
            (resolvePath explorer.disk explorer.session ⟨"../late/./a.ts"⟩).same controller.sourceFile = true := by
  intro roots
  have sound : earlyDisk.Sound := by decide
  have opened : Session.ofRoots earlyDisk roots ⟨["*.ts"], [], 300⟩ = .ok (openedEarly roots) := rfl
  refine ⟨sound, opened, ?_⟩
  intro explorer
  have files : explorer.session.store.snapshot.controllers.map Controller.sourceFile = [⟨"/w//late/a.ts"⟩] := by
    decide +kernel
  refine ⟨files, ?_⟩
  intro controller shown
  have file : controller.sourceFile = ⟨"/w//late/a.ts"⟩ := by
    have member : controller.sourceFile ∈ explorer.session.store.snapshot.controllers.map Controller.sourceFile :=
      List.mem_map_of_mem shown
    rw [files] at member
    exact List.mem_singleton.mp member
  have leads : explorer.disk.resolve? controller.sourceFile = some ["w", "late", "a.ts"] := by
    rw [file]
    decide +kernel
  have met := (met_after_refresh_iff sound opened [.changeDisk lateDisk (by decide)] controller shown _ leads).mpr
    ⟨⟨"/w//late"⟩, by simp [roots], by rw [file]; decide +kernel⟩
  exact ⟨leads, (met ⟨"../late/./a.ts"⟩ (by decide +kernel)).1⟩

/-- A relative root that is made later has its files under relative paths, and their absolute paths, which lead
to the same files, are not taken for these. -/
theorem relativeRoot_not_met :
    let roots : List FilePath := [⟨"late"⟩]
    let explorer := (Explorer.run ⟨earlyDisk, openedEarly roots⟩ [.changeDisk lateDisk (by decide)]).step .refresh
    Session.ofRoots earlyDisk roots ⟨["*.ts"], [], 300⟩ = .ok (openedEarly roots) ∧
      explorer.session.store.snapshot.controllers.map Controller.sourceFile = [⟨"late/a.ts"⟩] ∧
      explorer.disk.resolve? ⟨"late/a.ts"⟩ = some ["w", "late", "a.ts"] ∧
      explorer.disk.resolve? ⟨"/w/late/a.ts"⟩ = some ["w", "late", "a.ts"] ∧
      resolvePath explorer.disk explorer.session ⟨"/w/late/a.ts"⟩ = ⟨"/w/late/a.ts"⟩ ∧
      (⟨"/w/late/a.ts"⟩ : FilePath).same ⟨"late/a.ts"⟩ = false ∧
      explorer.session.isEligible ⟨"/w/late/a.ts"⟩ = false := by
  intro roots explorer
  refine ⟨rfl, ?_, ?_, ?_, ?_, ?_, ?_⟩ <;> decide +kernel

end Rpc

end RouteExplorer

import Netlister.Proofs.Check.Gating
import Netlister.Proofs.FileSystem
import Netlister.Proofs.InPlace
import Netlister.Proofs.Vhdl.Digital

/-! # A production writes its file or nothing

  `produce` gives a file system back only when it succeeds. A program that works on a disk
  cannot do so: it changes the files as it goes, and what was changed before a failure stays.
  `Disk.produce` is the production in this form. It even makes a file before it knows that it
  will succeed, to find out whether the output directory can be written to, and removes it.

  - `produced_of_produce`: a production that succeeds has written one file, right below the
    output directory, with the text of the schematic.
  - `Disk.sees_probe`: a probe file with a name of its own leaves no trace.
  - `Disk.produce_eq`: on a disk, the production ends as planned beforehand, and unless it
    succeeds, all files are as before.
  - `production_all_or_nothing`: both together.
-/

namespace Netlister.Products

open Outcome

/-! ### Where the file is -/

/-- An output directory that is accepted is at a place. -/
theorem exists_place {fs : FileSystem} {path : String} (h : requireDirectory fs path = .ok ()) :
    ∃ place, fs.locate path = .ok place := by
  unfold requireDirectory at h
  split at h
  · next hstatus =>
    obtain ⟨place, hplace, -⟩ := bind_eq_ok.1 hstatus
    exact ⟨place, hplace⟩
  all_goals cases h

/-- A name is joined to a directory by one slash. -/
theorem beneath_joinPath {directory name : String} (hdirectory : directory ≠ "")
    (hname : '/' ∉ name.toList) :
    FileSystem.Beneath directory (joinPath directory name) name := by
  refine ⟨hname, ?_⟩
  unfold joinPath
  rw [if_neg hdirectory]
  split
  · next hslash =>
    obtain ⟨base, hbase⟩ := List.getLast?_eq_some_iff.1 hslash
    exact ⟨base, by simp [hbase], .inr hbase⟩
  · exact ⟨directory.toList, by simp, .inl rfl⟩

theorem sourcePath_eq (o : Options) (s : Schematic) :
    o.sourcePath s = joinPath o.outputDirectory (s.name ++ ".vhd") := by
  unfold Options.sourcePath
  rw [String.append_assoc]
  cases o.target
  rfl

/-- The name of a schematic that is accepted makes a name of a file. -/
theorem slash_not_mem {name : String} (h : requireFileStem name = .ok ()) :
    '/' ∉ (name ++ ".vhd").toList := by
  unfold requireFileStem at h
  split at h
  · cases h
  · next hname =>
    intro hslash
    rw [String.toList_append, List.mem_append] at hslash
    rcases hslash with hslash | hslash
    · exact hname (.inr (.inr (.inr (.inl hslash))))
    · exact absurd hslash (by decide)

/-- What a production of `product` has made of the files `fs`. -/
structure Produced (fs : FileSystem) (s : Schematic) (o : Options) (product : Product)
    (written : FileSystem) : Prop where
  /-- The path is that of a single name in the output directory. -/
  path : product.path = joinPath o.outputDirectory (s.name ++ ".vhd") ∧
    '/' ∉ (s.name ++ ".vhd").toList
  /-- The text is that for the netlist of the schematic, and the file holds it. -/
  text : ∃ n, (Netlist.build s).result = .ok n ∧
    (Vhdl.generate s n).result = .ok product.text ∧
    written.status product.path = .ok (.file product.text.toUTF8)
  /-- The path leads right below the output directory, and nothing else has changed. -/
  place : ∃ place, fs.locate o.outputDirectory = .ok place ∧
    written.locate product.path = .ok (place ++ [s.name ++ ".vhd"]) ∧
    ∀ other, other ≠ place ++ [s.name ++ ".vhd"] → written.entry? other = fs.entry? other
  /-- Paths start where they did before. -/
  workingDirectory : written.workingDirectory = fs.workingDirectory

/-- A production that succeeds writes one file. -/
theorem produced_of_produce {fs written : FileSystem} {s : Schematic} {o : Options}
    {product : Product} (h : (produce fs s o).result = .ok (product, written)) :
    Produced fs s o product written := by
  rw [result_produce] at h
  obtain ⟨hstem, h⟩ := check_bind_eq_ok.1 h
  obtain ⟨hdirectory, h⟩ := check_bind_eq_ok.1 h
  obtain ⟨n, hbuild, h⟩ := bind_eq_ok.1 h
  obtain ⟨-, h⟩ := check_bind_eq_ok.1 h
  obtain ⟨-, h⟩ := check_bind_eq_ok.1 h
  obtain ⟨text, htext, h⟩ := bind_eq_ok.1 h
  obtain ⟨written', hwrite, h⟩ := bind_eq_ok.1 h
  cases h
  rw [mapError_eq_ok] at hbuild htext hwrite
  obtain ⟨place, hplace⟩ := exists_place hdirectory
  have hname := slash_not_mem hstem
  have hbeneath : FileSystem.Beneath o.outputDirectory (o.sourcePath s) (s.name ++ ".vhd") := by
    rw [sourcePath_eq]
    refine beneath_joinPath ?_ hname
    intro hempty
    exact (FileSystem.way_of_locate hplace).1 (by rw [hempty]; rfl)
  obtain ⟨hwritten, hfound⟩ := FileSystem.writeText_beneath hbeneath hplace hwrite
  have hentry (other : Place) : written.entry? other =
      if other = place ++ [s.name ++ ".vhd"] then some (.file text.toUTF8)
      else fs.entry? other := by
    rw [hwritten, FileSystem.entry?_set (by simp)]
  constructor
  · exact ⟨sourcePath_eq o s, hname⟩
  · refine ⟨n, hbuild, htext, ?_⟩
    unfold FileSystem.status
    rw [hfound, ok_bind, hentry, if_pos rfl]
    rfl
  · refine ⟨place, hplace, hfound, fun other hne => ?_⟩
    rw [hentry, if_neg hne]
  · rw [hwritten]
    rfl

/-! ### Working on a disk -/

/-- What a disk decides on top of what its files say. -/
structure Disk where
  /-- The name of a new file in a directory, or why none can be made there. -/
  newName : FileSystem → Place → Except FileError String
  /-- Why a file is not written although its path is in order. -/
  refusal? : FileSystem → String → Option FileError

/-- New files have names that nothing in their directory has. -/
def Disk.Fresh (disk : Disk) : Prop :=
  ∀ fs place name, disk.newName fs place = .ok name → fs.entry? (place ++ [name]) = none

/-- The disk decides nothing: new files can be made, and no write is refused. -/
def Disk.Willing (disk : Disk) : Prop :=
  (∀ fs place, ∃ name, disk.newName fs place = .ok name) ∧ ∀ fs path, disk.refusal? fs path = none

/-- What changes files in place. When it fails, the changes made so far stay. -/
abbrev OnDisk (α : Type) : Type := EStateM Error FileSystem α

namespace Disk

/-- Finds out whether a directory can be written to, by means of a file that is removed at
    once. -/
def probe (disk : Disk) (path : String) : OnDisk Unit := do
  let place ← look fun fs => (fs.locate path).mapError (.file path)
  let name ← look fun fs => (disk.newName fs place).mapError (unwritable path)
  modify fun fs => fs.set (place ++ [name]) (.file .empty)
  modify fun fs => fs.erase (place ++ [name])

/-- Fails for a file that the disk refuses to write. -/
def requireWilling (disk : Disk) (fs : FileSystem) (path : String) : Except Error Unit :=
  match disk.refusal? fs path with
  | some cause => .error (.file path cause)
  | none => .ok ()

/-- Writes a whole file, or nothing. -/
def write (disk : Disk) (path text : String) : OnDisk Unit := do
  look fun fs => disk.requireWilling fs path
  let written ← look fun fs => (fs.writeText path text).mapError (.file path)
  set written

/-- Writes the source file for a schematic, and tells its path. -/
def produce (disk : Disk) (s : Schematic) (o : Options) : OnDisk String := do
  look fun _ => requireFileStem s.name
  look fun fs => requireDirectory fs o.outputDirectory
  disk.probe o.outputDirectory
  let n ← look fun _ => (Netlist.build s).result.mapError .netlist
  look fun _ => (checkNetlist s n o).result
  look fun _ => (reportUnmerged n).result
  let text ← look fun _ => (Vhdl.generate s n).result.mapError .vhdl
  disk.write (o.sourcePath s) text
  return o.sourcePath s

/-! ### Failures leave no trace -/

/-- Whether a probe file can be made in a directory. -/
def probed (disk : Disk) (fs : FileSystem) (path : String) : Except Error Unit := do
  let place ← (fs.locate path).mapError (Error.file path)
  let _ ← (disk.newName fs place).mapError (unwritable path)
  return ()

/-- A probe file with a name of its own leaves no trace. -/
theorem sees_probe {disk : Disk} {fs : FileSystem} (hfresh : disk.Fresh) (path : String) :
    Sees (disk.probe path) fs (disk.probed fs path) := by
  have hremoved : disk.probe path fs = settle fs (do
      let place ← (fs.locate path).mapError (Error.file path)
      let _ ← (disk.newName fs place).mapError (unwritable path)
      return ((), fs)) := by
    refine (sees_look _).bind fun place _ => (sees_look _).bind fun name hname => ?_
    show EStateM.Result.ok () ((fs.set (place ++ [name]) (.file .empty)).erase (place ++ [name])) =
      .ok () fs
    rw [FileSystem.erase_set (hfresh fs place name (mapError_eq_ok.1 hname))]
  unfold Sees probed
  rw [hremoved]
  simp only [map_bind]
  rfl

/-! ### What a production plans -/

/-- How a production ends, as far as it is decided before anything is written. -/
def plan (disk : Disk) (fs : FileSystem) (s : Schematic) (o : Options) :
    Except Error (String × FileSystem) := do
  requireFileStem s.name
  requireDirectory fs o.outputDirectory
  disk.probed fs o.outputDirectory
  let n ← (Netlist.build s).result.mapError Error.netlist
  (checkNetlist s n o).result
  (reportUnmerged n).result
  let text ← (Vhdl.generate s n).result.mapError Error.vhdl
  disk.requireWilling fs (o.sourcePath s)
  let written ← (fs.writeText (o.sourcePath s) text).mapError (Error.file (o.sourcePath s))
  return (o.sourcePath s, written)

section Plans

variable {disk : Disk} {fs : FileSystem} {s : Schematic} {o : Options}

/-- On a disk, a production ends as planned. -/
theorem produce_eq (hfresh : disk.Fresh) : disk.produce s o fs = settle fs (disk.plan fs s o) := by
  refine (sees_look _).bind fun _ _ => (sees_look _).bind fun _ _ => ?_
  refine (sees_probe hfresh _).bind fun _ _ => ?_
  refine (sees_look _).bind fun n _ => (sees_look _).bind fun _ _ => ?_
  refine (sees_look _).bind fun _ _ => (sees_look _).bind fun text _ => ?_
  -- What is left is the write, which checks twice before it changes anything.
  show ((look _ >>= fun _ => look _ >>= fun written => set written) >>= fun _ => pure _) fs = _
  simp only [bind_assoc]
  refine (sees_look _).bind fun _ _ => (sees_look _).bind fun written _ => ?_
  rfl

/-- A plan that succeeds is that of a production that does. -/
theorem produce_of_plan {path : String} {written : FileSystem}
    (h : disk.plan fs s o = .ok (path, written)) :
    ∃ product : Product, product.path = path ∧
      (Products.produce fs s o).result = .ok (product, written) := by
  obtain ⟨hstem, h⟩ := check_bind_eq_ok.1 h
  obtain ⟨hdirectory, h⟩ := check_bind_eq_ok.1 h
  obtain ⟨-, h⟩ := check_bind_eq_ok.1 h
  obtain ⟨n, hbuild, h⟩ := bind_eq_ok.1 h
  obtain ⟨hcheck, h⟩ := check_bind_eq_ok.1 h
  obtain ⟨hunmerged, h⟩ := check_bind_eq_ok.1 h
  obtain ⟨text, htext, h⟩ := bind_eq_ok.1 h
  obtain ⟨-, h⟩ := check_bind_eq_ok.1 h
  obtain ⟨written', hwritten, h⟩ := bind_eq_ok.1 h
  cases h
  refine ⟨⟨o.sourcePath s, text⟩, rfl, ?_⟩
  rw [result_produce]
  simp only [hstem, hdirectory, hbuild, hcheck, hunmerged, htext, hwritten, ok_bind]
  rfl

/-- Where the disk decides nothing, the plan is what a production does. -/
theorem plan_of_willing (hwilling : disk.Willing) :
    disk.plan fs s o = (Products.produce fs s o).result.map fun (product, written) =>
      (product.path, written) := by
  rw [result_produce]
  unfold plan
  simp only [map_bind]
  refine bind_congr fun _ => ?_
  cases hdirectory : requireDirectory fs o.outputDirectory with
  | error e => rfl
  | ok u =>
    obtain ⟨place, hplace⟩ := exists_place hdirectory
    obtain ⟨name, hname⟩ := hwilling.1 fs place
    have hprobed : disk.probed fs o.outputDirectory = .ok () := by
      unfold probed
      rw [mapError_eq_ok.2 hplace, ok_bind, mapError_eq_ok.2 hname]
      rfl
    have hwrite : disk.requireWilling fs (o.sourcePath s) = .ok () := by
      unfold requireWilling
      rw [hwilling.2]
    rw [ok_bind, hprobed]
    simp only [hwrite, ok_bind]
    rfl

end Plans

end Disk

/-! ### All or nothing -/

/-- **A production is all or nothing, and stays in its directory.** On a disk whose new files
    have new names, a production that fails leaves all files as they were. One that succeeds
    has written the text for the schematic to one file, right below the output directory, and
    changed nothing else. It is the production that `produce` describes, and where the disk
    decides nothing, the two always end alike. -/
theorem production_all_or_nothing {disk : Disk} (hfresh : disk.Fresh) (fs : FileSystem)
    (s : Schematic) (o : Options) :
    (∀ e fs', disk.produce s o fs = .error e fs' → fs' = fs) ∧
    (∀ path fs', disk.produce s o fs = .ok path fs' → ∃ product : Product, product.path = path ∧
      (produce fs s o).result = .ok (product, fs') ∧ Produced fs s o product fs') ∧
    (∀ product written, (produce fs s o).result = .ok (product, written) →
      Produced fs s o product written) ∧
    (disk.Willing → disk.produce s o fs =
      match (produce fs s o).result with
      | .ok (product, written) => .ok product.path written
      | .error e => .error e fs) := by
  rw [Disk.produce_eq hfresh]
  refine ⟨?_, ?_, fun _ _ => produced_of_produce, ?_⟩
  · intro e fs' h
    cases hplan : disk.plan fs s o with
    | ok planned =>
      rw [hplan] at h
      cases h
    | error e' =>
      rw [hplan] at h
      cases h
      rfl
  · intro path fs' h
    cases hplan : disk.plan fs s o with
    | ok planned =>
      rw [hplan] at h
      cases h
      obtain ⟨product, hpath, hproduce⟩ := Disk.produce_of_plan hplan
      exact ⟨product, hpath, hproduce, produced_of_produce hproduce⟩
    | error e =>
      rw [hplan] at h
      cases h
  · intro hwilling
    rw [Disk.plan_of_willing hwilling]
    cases (produce fs s o).result <;> rfl

/-! A disk that decides nothing, and a directory with two files in it. -/

/-- A name that is longer than all names that there are. -/
def longName (fs : FileSystem) : String :=
  String.ofList ('_' :: fs.entries.flatMap fun e => (e.1.getLastD "").toList)

theorem entry?_longName (fs : FileSystem) (place : Place) :
    fs.entry? (place ++ [longName fs]) = none := by
  unfold FileSystem.entry?
  rw [if_neg (by simp), List.lookup_eq_none_iff]
  intro e he
  rw [bne_iff_ne]
  intro heq
  -- The last name of a place is a part of the long name, which is longer by one.
  have hpart : List.Sublist (e.1.getLastD "").toList
      (fs.entries.flatMap fun e => (e.1.getLastD "").toList) := by
    rw [List.flatMap_def]
    exact List.sublist_flatten_of_mem (List.mem_map_of_mem he)
  have hlast : e.1.getLastD "" = longName fs := by
    rw [← heq, List.getLastD_concat]
  have hle := hpart.length_le
  rw [hlast, longName, String.toList_ofList, List.length_cons] at hle
  omega

/-- The disk: probe files have long names. -/
def roomyDisk : Disk := ⟨fun fs _ => .ok (longName fs), fun _ _ => none⟩

theorem fresh_roomyDisk : roomyDisk.Fresh := by
  intro fs place name h
  cases h
  exact entry?_longName fs place

theorem willing_roomyDisk : roomyDisk.Willing :=
  ⟨fun fs _ => ⟨longName fs, rfl⟩, fun _ _ => rfl⟩

/-- The files: a directory below the working directory, with an older source file. -/
def workspace : FileSystem where
  workingDirectory := ["home"]
  entries := [(["home"], .directory), (["home", "out"], .directory),
    (["home", "out", "notes"], .file "keep".toUTF8),
    (["home", "out", "stage.vhd"], .file "old".toUTF8)]

/-- A disk on which no file can be made. -/
def lockedDisk : Disk := ⟨fun _ _ => .error .permissionDenied, fun _ _ => none⟩

theorem fresh_lockedDisk : lockedDisk.Fresh := by
  intro fs place name h
  cases h

/-- The circuit of one register takes the place of the older file, and the notes are kept. The
    circuit of facing pins fails only after the probe, and all files are as before. On a locked
    disk nothing gets as far as that. -/
theorem production_all_or_nothing_workspace :
    roomyDisk.Fresh ∧
    (∃ written n text,
      roomyDisk.produce Vhdl.stage { outputDirectory := "out/" } workspace =
        .ok "out/stage.vhd" written ∧
      (Netlist.build Vhdl.stage).result = .ok n ∧ (Vhdl.generate Vhdl.stage n).result = .ok text ∧
      written.status "out/stage.vhd" = .ok (.file text.toUTF8) ∧
      written.entry? ["home", "out", "notes"] = workspace.entry? ["home", "out", "notes"]) ∧
    roomyDisk.produce facingPins { outputDirectory := "out/" } workspace =
      .error (.vhdl (.driver (.undriven "n_c0"))) workspace ∧
    lockedDisk.Fresh ∧
    lockedDisk.produce Vhdl.stage { outputDirectory := "out/" } workspace =
      .error (.outputDirectoryReadOnly "out/") workspace := by
  obtain ⟨-, -, hproduced, hsame⟩ :=
    production_all_or_nothing fresh_roomyDisk workspace Vhdl.stage { outputDirectory := "out/" }
  obtain ⟨-, -, -, hsame'⟩ :=
    production_all_or_nothing fresh_roomyDisk workspace facingPins { outputDirectory := "out/" }
  refine ⟨fresh_roomyDisk, ?_, ?_, fresh_lockedDisk, ?_⟩
  · obtain ⟨⟨⟨path, text⟩, written⟩, hproduce⟩ :
        ∃ r, (produce workspace Vhdl.stage { outputDirectory := "out/" }).result = .ok r :=
      exists_ok (by decide +kernel)
    obtain ⟨⟨hpath, -⟩, ⟨n, hbuild, htext, hstatus⟩, ⟨place, hplace, -, hothers⟩, -⟩ :=
      hproduced _ _ hproduce
    have hout : path = "out/stage.vhd" := hpath.trans (by decide +kernel)
    subst hout
    refine ⟨written, n, text, ?_, hbuild, htext, hstatus, hothers _ ?_⟩
    · rw [hsame willing_roomyDisk, hproduce]
    · cases hplace
      decide +kernel
  · have hproduce : (produce workspace facingPins { outputDirectory := "out/" }).result =
        .error (.vhdl (.driver (.undriven "n_c0"))) := rfl
    rw [hsame' willing_roomyDisk, hproduce]
  · rw [Disk.produce_eq fresh_lockedDisk]
    rfl

end Netlister.Products

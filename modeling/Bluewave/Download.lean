import Mathlib.Data.List.AList
import Bluewave.Lib.Links
import Bluewave.ReportFlow

/-! The download of a report: the wipe of the directory before the run, the click on the
CSV button and the poll for the file. The wipe goes on when an entry cannot be deleted,
and the poll knows the file by its name alone. -/
namespace Bluewave.Download
open Lib Lib.Links Bluewave.Exceptions Bluewave.SafeDriver Bluewave.ReportFlow

/-- A name in the download directory, or a path to somewhere else. -/
inductive Place where
  | inside (name : String)
  | outside (path : String)
  deriving DecidableEq

/-- `other` is a directory, a FIFO, a socket or a device. -/
inductive Kind where
  | file
  | symlink (dest : Place)
  | other
  deriving DecidableEq

/-- On which side of this run's click on the CSV button something was created. -/
inductive Origin where
  | beforeClick
  | afterClick
  deriving DecidableEq

structure Item where
  kind : Kind
  origin : Origin
  deriving DecidableEq

abbrev Disk := AList fun _ : Place => Item

def Item.link (item : Item) : Option Place :=
  match item.kind with
  | .symlink dest => some dest
  | .file => none
  | .other => none

/-- A path crosses fewer links than this before it fails with `ELOOP`. -/
def linkLimit : Nat := 41

/-- What a path leads to through its links. -/
def target (look : Place → Option Item) (p : Place) : Option Item :=
  resolve Item.link look linkLimit p

def lookup (disk : Disk) (p : Place) : Option Item := disk.lookup p

/-- `Path.exists`. -/
def pathExists (disk : Disk) (p : Place) : Bool := (target (lookup disk) p).isSome

/-- `Path.is_file`. -/
def isFile (disk : Disk) (p : Place) : Bool :=
  (target (lookup disk) p).any fun item => item.kind = .file

/-- `Path.is_symlink`. -/
def isSymlink (disk : Disk) (p : Place) : Bool :=
  (lookup disk p).any fun item => item.link.isSome

def csvFilename : String := "BlueWeb - Reports.csv"

def probeName : String := ".bluewave-write-probe"

/-- Matched by `*.crdownload`. -/
def isCrdownload (name : String) : Bool := ".crdownload".toList.isSuffixOf name.toList

/-! ## The wipe -/

/-- What `wipe_download_dir` meets: the disk before the call, and which of its calls raise
an `OSError`, with its text where it is asked for. -/
structure Wipe where
  disk : Disk
  present : Bool
  mkdir : Option String
  probeWrite : Option String
  probeUnlinkFails : Bool
  listing : Option Exn
  unlinkFails : String → Bool
  geteuid : Nat
  earlier : ∀ p item, disk.lookup p = some item → item.origin = .beforeClick
  absent : present = false → ∀ name, .inside name ∉ disk

/-- `probe.write_text`, which creates the file where the path ends. -/
def writeProbe (disk : Disk) : Disk :=
  match follow Item.link (lookup disk) linkLimit (.inside probeName) with
  | some p => if p ∈ disk then disk else disk.insert p ⟨.file, .beforeClick⟩
  | none => disk

/-- The disk when the probe is written and deleted again. -/
def Wipe.probed (w : Wipe) : Disk :=
  if w.probeUnlinkFails then writeProbe w.disk else (writeProbe w.disk).erase (.inside probeName)

/-- `d.iterdir()`. -/
def iterdir (disk : Disk) : List String :=
  disk.keys.filterMap fun p =>
    match p with
    | .inside name => some name
    | .outside _ => none

/-- The body of the loop. A failing `unlink` is only logged. -/
def unlinkEntry (fails : String → Bool) (disk : Disk) (name : String) : Disk :=
  if isFile disk (.inside name) || isSymlink disk (.inside name) then
    if fails name then disk else disk.erase (.inside name)
  else disk

def unlinkEntries (fails : String → Bool) (disk : Disk) : Disk :=
  (iterdir disk).foldl (unlinkEntry fails) disk

section
variable (repr : String → String)

/-- `wipe_download_dir`. -/
def wipeDownloadDir (w : Wipe) (directory : String) : Except Exn Disk := do
  match w.present, w.mkdir with
  | false, some e => throw (.runFailure .downloadFailed
      ("could not create download dir " ++ repr directory ++ ": " ++ e))
  | _, _ => pure ()
  match w.probeWrite with
  | some e => throw (.runFailure .downloadFailed
      ("download dir " ++ repr directory ++ " is not writable by uid=" ++ toString w.geteuid ++
        ": " ++ e ++ ". If this is a docker tmpfs mount, ensure mode=1777 or uid=" ++
        toString w.geteuid ++ "."))
  | none => pure ()
  match w.listing with
  | some e => throw e
  | none => pure ()
  pure (unlinkEntries w.unlinkFails w.probed)

end

/-! ## The browser and the poll -/

/-- What the browser does with the files of its downloads, the partial ones included. A
file is finished when its `.crdownload` gets its last name or goes away. -/
inductive Act where
  | create (p : Place)
  | rename (p q : Place)
  | remove (p : Place)

/-- A name that is taken is left as it is: the browser picks another. -/
def Act.perform (disk : Disk) : Act → Disk
  | .create p => if p ∈ disk then disk else disk.insert p ⟨.file, .afterClick⟩
  | .rename p q =>
    if disk.lookup p = some ⟨.file, .afterClick⟩ ∧ q ∉ disk then
      (disk.erase p).insert q ⟨.file, .afterClick⟩
    else disk
  | .remove p => if disk.lookup p = some ⟨.file, .afterClick⟩ then disk.erase p else disk

def performAll (acts : List Act) (disk : Disk) : Disk := acts.foldl Act.perform disk

/-- One pass of the loop: the clock at its test, in microseconds, and what the browser does
before the look for the file and between it and the look for `*.crdownload`. -/
structure Poll where
  now : Int
  before : List Act
  between : List Act

/-- A file that was taken to be ready, with the disk at the two looks. -/
structure Seen where
  name : String
  existing : Disk
  listed : Disk

/-- `_download_ready`, and the disk after it. -/
def downloadReady (disk : Disk) (between : List Act) (filename : String) : Option Seen × Disk :=
  if pathExists disk (.inside filename) then
    let listed := performAll between disk
    if (iterdir listed).any isCrdownload then (none, listed)
    else (some ⟨filename, disk, listed⟩, listed)
  else (none, disk)

/-- The polling loop of `click_csv_and_await_file`. -/
def awaitFile (filename : String) (deadline : Int) : List Poll → Disk → Option Seen
  | [], _ => none
  | poll :: polls, disk =>
    if poll.now < deadline then
      match downloadReady (performAll poll.before disk) poll.between filename with
      | (some seen, _) => some seen
      | (none, disk) => awaitFile filename deadline polls disk
    else none

/-- After the click: the clock, and the passes of the loop. -/
structure Wait where
  clicked : Int
  polls : List Poll

def downloadWaitS : Int := 60

section
variable (repr : String → String)

/-- The file of this run, if the wipe lets it come to the poll. -/
def awaited (w : Wipe) (wait : Wait) (directory : String) : Option Seen :=
  match wipeDownloadDir repr w directory with
  | .ok disk => awaitFile csvFilename (wait.clicked + downloadWaitS * 1000000) wait.polls disk
  | .error _ => none

def wipeFault (w : Wipe) (directory : String) : Option Exn :=
  match wipeDownloadDir repr w directory with
  | .ok _ => none
  | .error e => some e

/-- `str(directory / filename)`, of a directory in the form `Path` gives it. -/
def joined (directory filename : String) : String :=
  if directory = "." then filename
  else if directory.toList.getLast? = some '/' then directory ++ filename
  else directory ++ "/" ++ filename

/-- `scrape_event_report` on this disk. -/
def scrapeEventReport (w : Wipe) (v : Visit) (wait : Wait) (value directory : String) :
    Driven (Option String) :=
  ReportFlow.scrapeEventReport repr
    { v with
      wipe := wipeFault repr w directory
      download := (awaited repr w wait directory).map fun seen => joined directory seen.name }
    value directory

end

/-! ## What the wipe leaves -/

/-- The item stays: it is no file and no link, or its `unlink` fails. -/
def Leaves (fails : String → Bool) : Place → Item → Prop
  | .inside name, item => item.kind = .other ∨ fails name = true
  | .outside _, _ => True

instance (fails : String → Bool) (p : Place) (item : Item) : Decidable (Leaves fails p item) :=
  match p with
  | .inside _ => inferInstanceAs (Decidable (_ ∨ _))
  | .outside _ => inferInstanceAs (Decidable True)

/-- What is left of the disk after the wipe. -/
def Wipe.left (w : Wipe) (p : Place) : Option Item :=
  (lookup w.probed p).filter fun item => Leaves w.unlinkFails p item

section
variable {fails : String → Bool} {disk : Disk} {p : Place} {name : String} {item : Item}

theorem lookup_insert (disk : Disk) (p q : Place) (item : Item) :
    lookup (disk.insert p item) q = if q = p then some item else lookup disk q := by
  unfold lookup
  split
  · rename_i h
    rw [h, AList.lookup_insert]
  · rename_i h
    exact AList.lookup_insert_ne h

theorem lookup_erase (disk : Disk) (p q : Place) :
    lookup (disk.erase p) q = if q = p then none else lookup disk q := by
  unfold lookup
  split
  · rename_i h
    rw [h, AList.lookup_erase]
  · rename_i h
    exact AList.lookup_erase_ne h

theorem lookup_eq_none : lookup disk p = none ↔ p ∉ disk := AList.lookup_eq_none

theorem mem_iterdir : name ∈ iterdir disk ↔ .inside name ∈ disk := by
  unfold iterdir
  rw [List.mem_filterMap, AList.mem_keys]
  constructor
  · intro h
    obtain ⟨p, hp, hname⟩ := h
    cases p with
    | inside n =>
      cases hname
      exact hp
    | outside path => cases hname
  · intro h
    exact ⟨_, h, rfl⟩

/-- The loop deletes what is no `other`. -/
theorem isFile_or_isSymlink (disk : Disk) (p : Place) :
    (isFile disk p || isSymlink disk p) = (lookup disk p).any fun item => item.kind ≠ .other := by
  unfold isFile isSymlink
  cases hp : lookup disk p with
  | none =>
    have hnone : target (lookup disk) p = none := by
      simp only [target, linkLimit, resolve, follow, hp, Option.bind_none, Option.bind_some]
    rw [hnone]
    rfl
  | some item =>
    obtain ⟨kind, origin⟩ := item
    cases kind with
    | symlink dest => simp [Item.link]
    | file =>
      have hfile : target (lookup disk) p = some ⟨.file, origin⟩ := resolve_of_look hp rfl
      rw [hfile]
      rfl
    | other =>
      have hother : target (lookup disk) p = some ⟨.other, origin⟩ := resolve_of_look hp rfl
      rw [hother]
      rfl

theorem lookup_unlinkEntry (fails : String → Bool) (disk : Disk) (name : String) (p : Place) :
    lookup (unlinkEntry fails disk name) p =
      if p = .inside name then (lookup disk p).filter fun item => Leaves fails p item
      else lookup disk p := by
  unfold unlinkEntry
  rw [isFile_or_isSymlink]
  by_cases hp : p = .inside name
  · subst hp
    cases hlook : lookup disk (.inside name) with
    | none => simp [hlook]
    | some item =>
      by_cases hother : item.kind = .other
      · simp [hother, hlook, Leaves, Option.filter_some]
      · by_cases hfails : fails name = true
        · simp [hother, hfails, hlook, Leaves, Option.filter_some]
        · simp [hother, hfails, lookup_erase, Leaves, Option.filter_some]
  · rw [if_neg hp]
    split
    · split
      · rfl
      · rw [lookup_erase, if_neg hp]
    · rfl

theorem lookup_foldl_unlinkEntry (fails : String → Bool) (names : List String) (disk : Disk)
    (p : Place) :
    lookup (names.foldl (unlinkEntry fails) disk) p =
      if p ∈ names.map .inside then (lookup disk p).filter fun item => Leaves fails p item
      else lookup disk p := by
  induction names generalizing disk with
  | nil => rfl
  | cons name names ih =>
    rw [List.foldl_cons, ih, lookup_unlinkEntry]
    simp only [List.map_cons, List.mem_cons]
    by_cases hp : p = .inside name
    · simp only [hp, if_true, true_or, Option.filter_filter, Bool.and_self, ite_self]
    · simp only [hp, if_false, false_or]

theorem lookup_unlinkEntries (fails : String → Bool) (disk : Disk) (p : Place) :
    lookup (unlinkEntries fails disk) p =
      (lookup disk p).filter fun item => Leaves fails p item := by
  unfold unlinkEntries
  rw [lookup_foldl_unlinkEntry]
  split
  · rfl
  · rename_i hp
    cases p with
    | outside path =>
      cases lookup disk (.outside path) with
      | none => rfl
      | some item => rfl
    | inside name =>
      have hnone : lookup disk (.inside name) = none := by
        rw [lookup_eq_none, ← mem_iterdir]
        intro hmem
        exact hp (List.mem_map_of_mem hmem)
      rw [hnone]
      rfl

end

/-- The wipe raises: the directory cannot be created, written or listed. -/
def Wipe.Refused (w : Wipe) : Prop :=
  (w.present = false ∧ w.mkdir ≠ none) ∨ w.probeWrite ≠ none ∨ w.listing ≠ none

theorem wipeDownloadDir_ok (repr : String → String) {w : Wipe} (h : ¬ w.Refused)
    (directory : String) :
    wipeDownloadDir repr w directory = .ok (unlinkEntries w.unlinkFails w.probed) := by
  simp only [Wipe.Refused, not_or, not_and, not_not] at h
  obtain ⟨hmkdir, hprobe, hlisting⟩ := h
  simp only [wipeDownloadDir, hprobe, hlisting]
  cases hpresent : w.present with
  | true => rfl
  | false =>
    rw [hmkdir hpresent]
    rfl

theorem wipeDownloadDir_refused (repr : String → String) {w : Wipe} (h : w.Refused)
    (directory : String) : ∃ e, wipeDownloadDir repr w directory = .error e := by
  rcases h with ⟨hpresent, hmkdir⟩ | hprobe | hlisting
  · obtain ⟨e, he⟩ := Option.ne_none_iff_exists'.mp hmkdir
    simp only [wipeDownloadDir, hpresent, he]
    exact ⟨_, rfl⟩
  · obtain ⟨e, he⟩ := Option.ne_none_iff_exists'.mp hprobe
    simp only [wipeDownloadDir, he]
    split <;> exact ⟨_, rfl⟩
  · obtain ⟨e, he⟩ := Option.ne_none_iff_exists'.mp hlisting
    simp only [wipeDownloadDir, he]
    split
    · exact ⟨_, rfl⟩
    · cases w.probeWrite <;> exact ⟨_, rfl⟩

/-! ## What the poll sees -/

/-- A file of the browser's. -/
def Fresh (item : Item) : Prop := item = ⟨.file, .afterClick⟩

theorem Fresh.link {item : Item} (h : Fresh item) : item.link = none := by
  rw [h]
  rfl

section
variable {look : Place → Option Item} {disk : Disk} {p : Place} {filename : String} {seen : Seen}

/-- The wiped disk, to which the browser has added its files. -/
abbrev Grown (look : Place → Option Item) (disk : Disk) : Prop :=
  Extends Fresh look (lookup disk)

theorem Grown.insert (h : Grown look disk) (hp : p ∉ disk) :
    Grown look (disk.insert p ⟨.file, .afterClick⟩) := by
  have hnone : look p = none := by
    by_contra hsome
    obtain ⟨item, hitem⟩ := Option.ne_none_iff_exists'.mp hsome
    have := h.keeps p item hitem
    rw [lookup_eq_none.mpr hp] at this
    cases this
  constructor
  · intro q item hitem
    rw [lookup_insert, if_neg, h.keeps q item hitem]
    intro hq
    rw [hq, hnone] at hitem
    cases hitem
  · intro q item hq hitem
    rw [lookup_insert] at hitem
    split at hitem
    · exact (Option.some.inj hitem).symm
    · exact h.adds q item hq hitem

theorem Grown.erase (h : Grown look disk) (hlook : look p = none) : Grown look (disk.erase p) := by
  constructor
  · intro q item hitem
    rw [lookup_erase, if_neg, h.keeps q item hitem]
    intro hq
    rw [hq, hlook] at hitem
    cases hitem
  · intro q item hq hitem
    rw [lookup_erase] at hitem
    split at hitem
    · cases hitem
    · exact h.adds q item hq hitem

variable (hearlier : ∀ p item, look p = some item → item.origin = .beforeClick)
include hearlier

/-- What the browser made is not what the wipe left. -/
theorem Grown.eq_none_of_own (h : Grown look disk)
    (hown : disk.lookup p = some ⟨.file, .afterClick⟩) : look p = none := by
  by_contra hsome
  obtain ⟨item, hitem⟩ := Option.ne_none_iff_exists'.mp hsome
  have horigin := hearlier p item hitem
  have hsame : item = ⟨.file, .afterClick⟩ :=
    Option.some.inj ((h.keeps p item hitem).symm.trans hown)
  rw [hsame] at horigin
  cases horigin

theorem Grown.perform (h : Grown look disk) (act : Act) : Grown look (act.perform disk) := by
  cases act with
  | create p =>
    simp only [Act.perform]
    split
    · exact h
    · rename_i hp
      exact h.insert hp
  | rename p q =>
    simp only [Act.perform]
    split
    · rename_i hown
      refine (h.erase (h.eq_none_of_own hearlier hown.1)).insert ?_
      rw [AList.mem_erase]
      exact fun hq => hown.2 hq.2
    · exact h
  | remove p =>
    simp only [Act.perform]
    split
    · rename_i hown
      exact h.erase (h.eq_none_of_own hearlier hown)
    · exact h

theorem Grown.performAll (h : Grown look disk) (acts : List Act) :
    Grown look (performAll acts disk) := by
  unfold Download.performAll
  induction acts generalizing disk with
  | nil => exact h
  | cons act acts ih => exact ih (h.perform hearlier act)

/-- What holds of the two looks when the file is taken to be ready. -/
structure Ready (look : Place → Option Item) (filename : String) (seen : Seen) : Prop where
  name : seen.name = filename
  existing : Grown look seen.existing
  listed : Grown look seen.listed
  present : pathExists seen.existing (.inside filename) = true
  complete : ∀ name, .inside name ∈ seen.listed → isCrdownload name = false

theorem downloadReady_spec (h : Grown look disk) (between : List Act) (filename : String) :
    Grown look (downloadReady disk between filename).2 ∧
      ∀ seen, (downloadReady disk between filename).1 = some seen → Ready look filename seen := by
  have hlisted := h.performAll hearlier between
  unfold downloadReady
  split
  · rename_i hpresent
    simp only
    split
    · exact ⟨hlisted, fun seen hseen => by cases hseen⟩
    · rename_i hnone
      refine ⟨hlisted, fun seen hseen => ?_⟩
      cases hseen
      refine ⟨rfl, h, hlisted, hpresent, fun name hname => ?_⟩
      simp only [List.any_eq_true, not_exists, not_and, Bool.not_eq_true] at hnone
      exact hnone name (mem_iterdir.mpr hname)
  · exact ⟨h, fun seen hseen => by cases hseen⟩

theorem awaitFile_ready {deadline : Int} {polls : List Poll} (h : Grown look disk)
    (hseen : awaitFile filename deadline polls disk = some seen) : Ready look filename seen := by
  induction polls generalizing disk with
  | nil => cases hseen
  | cons poll polls ih =>
    obtain ⟨hgrown, hready⟩ := downloadReady_spec hearlier
      (h.performAll hearlier poll.before) poll.between filename
    simp only [awaitFile] at hseen
    split at hseen
    · split at hseen
      · rename_i found hfound
        cases hseen
        exact hready _ (by rw [hfound])
      · rename_i disk' hfound
        rw [hfound] at hgrown
        exact ih hgrown hseen
    · cases hseen

end

/-! ## The file that is returned -/

/-- The file at the path was created after the click, and no download was under way when
that was seen. -/
structure OwnDownload (seen : Seen) : Prop where
  created : ∃ item, target (lookup seen.existing) (.inside seen.name) = some item ∧
    item.origin = .afterClick
  current : ∀ item, target (lookup seen.listed) (.inside seen.name) = some item →
    item.origin = .afterClick
  complete : ∀ name, .inside name ∈ seen.listed → isCrdownload name = false

/-- Whatever the pages answer and the browser does, a path that is returned is that of
this run's download. -/
def ReturnsOwnDownload (w : Wipe) : Prop :=
  ∀ repr v wait value directory path,
    (Logged.outcome (scrapeEventReport repr w v wait value directory) []).1 = .ok (some path) →
    ∃ seen, awaited repr w wait directory = some seen ∧ path = joined directory seen.name ∧
      OwnDownload seen

/-- Something that matches `*.crdownload` is left. -/
def Wipe.Pending (w : Wipe) : Prop :=
  ∃ name, w.left (.inside name) ≠ none ∧ isCrdownload name = true

/-- The name of the CSV file leads to something that is left. -/
def Wipe.Stale (w : Wipe) : Prop := target w.left (.inside csvFilename) ≠ none

/-- A run that returns a path has come through the wipe and to the end of the poll. -/
theorem scrapeEventReport_path {repr : String → String} {v : Visit} {value directory path : String}
    (h : (Logged.outcome (ReportFlow.scrapeEventReport repr v value directory) []).1 =
      .ok (some path)) : v.wipe = none ∧ v.download = some path := by
  obtain ⟨_, log, hwipe, h⟩ := Logged.ok_of_bind h
  obtain ⟨-, log, -, h⟩ := Logged.ok_of_bind h
  obtain ⟨-, log, -, h⟩ := Logged.ok_of_bind h
  obtain ⟨outcome, log, -, h⟩ := Logged.ok_of_bind h
  constructor
  · cases hfault : v.wipe with
    | none => rfl
    | some e =>
      rw [hfault] at hwipe
      cases hwipe
  · cases outcome with
    | noRows => cases h
    | hasRows =>
      obtain ⟨path', log, hawait, h⟩ := Logged.ok_of_bind h
      have hpath : path' = path := by
        cases h
        rfl
      obtain ⟨-, log, -, hdownload⟩ := Logged.ok_of_bind (congrArg Prod.fst hawait)
      cases hd : v.download with
      | none =>
        rw [hd] at hdownload
        cases hdownload
      | some p =>
        rw [hd] at hdownload
        cases hdownload
        rw [hpath]

section
variable {w : Wipe}

theorem writeProbe_earlier {disk : Disk}
    (h : ∀ p item, lookup disk p = some item → item.origin = .beforeClick) (p : Place)
    (item : Item) (hitem : lookup (writeProbe disk) p = some item) : item.origin = .beforeClick := by
  unfold writeProbe at hitem
  split at hitem
  · split at hitem
    · exact h p item hitem
    · rw [lookup_insert] at hitem
      split at hitem
      · rw [← Option.some.inj hitem]
      · exact h p item hitem
  · exact h p item hitem

theorem left_earlier (p : Place) (item : Item) (hitem : w.left p = some item) :
    item.origin = .beforeClick := by
  have hprobe := writeProbe_earlier w.earlier
  obtain ⟨hprobed, -⟩ := Option.filter_eq_some_iff.mp hitem
  unfold Wipe.probed at hprobed
  split at hprobed
  · exact hprobe p item hprobed
  · rw [lookup_erase] at hprobed
    split at hprobed
    · cases hprobed
    · exact hprobe p item hprobed

/-- The poll starts from what the wipe leaves. -/
theorem wiped_grown (w : Wipe) : Grown w.left (unlinkEntries w.unlinkFails w.probed) := by
  have hleft : lookup (unlinkEntries w.unlinkFails w.probed) = w.left :=
    funext fun p => lookup_unlinkEntries _ _ p
  unfold Grown
  rw [hleft]
  exact .rfl

theorem awaited_ready {repr : String → String} {wait : Wait} {directory : String} {seen : Seen}
    (h : awaited repr w wait directory = some seen) :
    ¬ w.Refused ∧ Ready w.left csvFilename seen := by
  by_cases hrefused : w.Refused
  · obtain ⟨e, he⟩ := wipeDownloadDir_refused repr hrefused directory
    rw [awaited, he] at h
    cases h
  · rw [awaited, wipeDownloadDir_ok repr hrefused] at h
    exact ⟨hrefused, awaitFile_ready left_earlier (wiped_grown w) h⟩

/-- A download that is left over holds the poll up. -/
theorem Ready.not_pending {seen : Seen} (h : Ready w.left csvFilename seen) : ¬ w.Pending := by
  intro hpending
  obtain ⟨name, hleft, hname⟩ := hpending
  obtain ⟨item, hitem⟩ := Option.ne_none_iff_exists'.mp hleft
  have hmem : .inside name ∈ seen.listed :=
    AList.lookup_isSome.mp (Option.isSome_iff_exists.mpr ⟨item, h.listed.keeps _ _ hitem⟩)
  rw [h.complete name hmem] at hname
  cases hname

theorem Ready.ownDownload {seen : Seen} (h : Ready w.left csvFilename seen) (hstale : ¬ w.Stale) :
    OwnDownload seen := by
  have hnone : target w.left (.inside seen.name) = none := h.name ▸ not_not.mp hstale
  obtain ⟨item, hitem⟩ := Option.isSome_iff_exists.mp (h.name ▸ h.present)
  refine ⟨⟨item, hitem, ?_⟩, fun item' hitem' => ?_, h.complete⟩
  · rw [h.existing.fresh_of_resolve (fun _ => Fresh.link) hnone hitem]
  · rw [h.listed.fresh_of_resolve (fun _ => Fresh.link) hnone hitem']

/-- What was left under the name of the file is what is seen there. -/
theorem Ready.not_ownDownload {seen : Seen} (h : Ready w.left csvFilename seen) (hstale : w.Stale) :
    ¬ OwnDownload seen := by
  intro hown
  obtain ⟨item, hitem⟩ := Option.ne_none_iff_exists'.mp hstale
  obtain ⟨item', hitem', horigin⟩ := hown.created
  have hkept : target (lookup seen.existing) (.inside seen.name) = some item :=
    h.name ▸ h.existing.resolve_keeps (fun _ => Fresh.link) hitem
  obtain rfl := Option.some.inj (hkept.symm.trans hitem')
  obtain ⟨q, -, hq⟩ := Option.bind_eq_some_iff.mp hitem
  rw [left_earlier q item hq] at horigin
  cases horigin

theorem Ready.ownDownload_iff {seen : Seen} (h : Ready w.left csvFilename seen) :
    OwnDownload seen ↔ ¬ w.Stale :=
  ⟨fun hown hstale => h.not_ownDownload hstale hown, h.ownDownload⟩

/-- What is stale is returned at the first look, if nothing else is in the way. -/
theorem not_returnsOwnDownload (hrefused : ¬ w.Refused) (hpending : ¬ w.Pending)
    (hstale : w.Stale) : ¬ ReturnsOwnDownload w := by
  intro h
  let disk := unlinkEntries w.unlinkFails w.probed
  obtain ⟨item, hitem⟩ := Option.ne_none_iff_exists'.mp hstale
  have hlook : lookup disk = w.left := funext fun p => lookup_unlinkEntries _ _ p
  have hpresent : pathExists disk (.inside csvFilename) = true := by
    rw [pathExists, hlook, hitem]
    rfl
  have hclear : (iterdir disk).any isCrdownload = false := by
    rw [List.any_eq_false]
    intro name hname hcrdownload
    refine hpending ⟨name, ?_, hcrdownload⟩
    rw [← hlook, ne_eq, lookup_eq_none, not_not]
    exact mem_iterdir.mp hname
  have hawaited : awaited id w ⟨0, [⟨0, [], []⟩]⟩ "/downloads" =
      some ⟨csvFilename, disk, disk⟩ := by
    rw [awaited, wipeDownloadDir_ok id hrefused]
    have hready : downloadReady disk [] csvFilename = (some ⟨csvFilename, disk, disk⟩, disk) := by
      rw [downloadReady, if_pos hpresent]
      exact if_neg (Bool.eq_false_iff.mp hclear)
    simp only [awaitFile, downloadWaitS, performAll, List.foldl_nil]
    rw [hready]
    rfl
  have hfault : wipeFault id w "/downloads" = none := by
    rw [wipeFault, wipeDownloadDir_ok id hrefused]
  have hrun : (Logged.outcome (scrapeEventReport id w (toolbarVisit "05/14/2026")
      ⟨0, [⟨0, [], []⟩]⟩ "05/14/2026" "/downloads") []).1 =
      .ok (some (joined "/downloads" csvFilename)) := by
    rw [scrapeEventReport, hawaited, hfault]
    rfl
  obtain ⟨seen, hseen, -, hown⟩ := h _ _ _ _ _ _ hrun
  exact (awaited_ready hseen).2.not_ownDownload hstale hown

end

/-- Every path that is returned is this run's download exactly when the wipe raises, or
leaves a download that holds the poll up, or leaves nothing the name of the file leads to. -/
theorem returnsOwnDownload_iff (w : Wipe) :
    ReturnsOwnDownload w ↔ w.Refused ∨ w.Pending ∨ ¬ w.Stale := by
  constructor
  · intro h
    by_contra hnot
    simp only [not_or, not_not] at hnot
    obtain ⟨hrefused, hpending, hstale⟩ := hnot
    exact not_returnsOwnDownload hrefused hpending hstale h
  · intro h repr v wait value directory path hpath
    obtain ⟨-, hdownload⟩ := scrapeEventReport_path hpath
    obtain ⟨seen, hseen, hjoined⟩ := Option.map_eq_some_iff.mp hdownload
    obtain ⟨hrefused, hready⟩ := awaited_ready hseen
    refine ⟨seen, hseen, hjoined.symm, hready.ownDownload ?_⟩
    rcases h with h | h | h
    · exact absurd h hrefused
    · exact absurd h hready.not_pending
    · exact h

/-! ## A file of another user -/

/-- In a directory with the sticky bit, yesterday's report belongs to somebody else. -/
def stickyReport : Wipe where
  disk := AList.singleton (.inside csvFilename) ⟨.file, .beforeClick⟩
  present := true
  mkdir := none
  probeWrite := none
  probeUnlinkFails := false
  listing := none
  unlinkFails name := name = csvFilename
  geteuid := 1000
  earlier p item h := by
    have hitem := AList.mem_lookup_iff.mp h
    rw [AList.singleton_entries, List.mem_singleton] at hitem
    cases hitem
    rfl
  absent h := by cases h

theorem stickyReport_probed : stickyReport.probed = stickyReport.disk := AList.ext (by decide)

theorem stickyReport_left (p : Place) :
    stickyReport.left p = if p = .inside csvFilename then some ⟨.file, .beforeClick⟩ else none := by
  have hlook : lookup stickyReport.disk p =
      if p = .inside csvFilename then some ⟨.file, .beforeClick⟩ else none :=
    lookup_insert ∅ (.inside csvFilename) p ⟨.file, .beforeClick⟩
  rw [Wipe.left, stickyReport_probed, hlook]
  split
  · rename_i hp
    subst hp
    simp [Option.filter_some, Leaves, stickyReport]
  · rfl

/-- Yesterday's report is returned. -/
theorem not_returnsOwnDownload_sticky : ¬ ∀ w, ReturnsOwnDownload w := by
  intro h
  refine not_returnsOwnDownload ?_ ?_ ?_ (h stickyReport)
  · intro hrefused
    rcases hrefused with ⟨hpresent, -⟩ | hprobe | hlisting
    · cases hpresent
    · exact hprobe rfl
    · exact hlisting rfl
  · intro hpending
    obtain ⟨name, hname, hcrdownload⟩ := hpending
    rw [stickyReport_left] at hname
    split at hname
    · rename_i hcsv
      rw [Place.inside.inj hcsv] at hcrdownload
      revert hcrdownload
      decide
    · exact hname rfl
  · have hleft : stickyReport.left (.inside csvFilename) = some ⟨.file, .beforeClick⟩ :=
      (stickyReport_left _).trans (if_pos rfl)
    have htarget : target stickyReport.left (.inside csvFilename) = some ⟨.file, .beforeClick⟩ :=
      resolve_of_look hleft rfl
    rw [Wipe.Stale, htarget]
    exact Option.some_ne_none _

end Bluewave.Download

import Dandelion.GeoIp.Cache
import Dandelion.Net.Text

/-!
# Country databases in use

An open database reads its file through a mapping, so it changes when the file does. A call that
downloads a database writes the file of its URL in place, whoever has it open.
-/

namespace Dandelion.GeoIp

open Fs Net

/-- What is decoded for an address. -/
structure Country where
  isoCode : Option String

/-- What is left to the file system and to the library that reads databases. -/
structure Reader where
  /-- The one path that a file is known by, of all that lead to it. -/
  canonicalPath : String → String
  /-- What is found for an address, and decoded, in a file that held `opened` when it was opened
  and holds `mapped` now. -/
  lookup : (opened mapped : List UInt8) → IpAddr → Except String (Except String (Option Country))

/-- What an open database sees: the file as it is now. -/
def Handle.mapped (handle : Handle) (files : Files) : List UInt8 :=
  match files handle.path with
  | none      => handle.opened
  | some file => file.contents

variable (lib : Library) (reader : Reader)

def lookup (files : Files) (handle : Handle) (ip : String) : String :=
  match IpAddr.parse ip with
  | none    => ""
  | some ip =>
    match reader.lookup handle.opened (handle.mapped files) ip with
    | .error _   => ""
    | .ok result => (result.toOption.join.bind Country.isoCode).getD ""

def createGeoipFromAbsolutePath (files : Files) (path : String) (mmap : Bool) :
    Except Error Handle :=
  match openMmap lib files (reader.canonicalPath path) mmap with
  | none        => .error (.context ("Failed to load GeoIP database from " ++ path))
  | some handle => .ok handle

/-- A call that opens a database. -/
inductive Create where
  | fromUrl (call : Call)
  | fromAbsolutePath (path : String) (mmap : Bool)

def create (files : Files) : Create → Files × Except Error Handle
  | .fromUrl call               => createGeoipFromUrl lib files call
  | .fromAbsolutePath path mmap =>
    (files, createGeoipFromAbsolutePath lib reader files path mmap)

/-- The files, and the open databases, none of which is ever dropped. -/
structure Live where
  files : Files
  handles : List Handle

def liveMachine : Machine Live Create (Except Error Handle) where
  step s c :=
    let r := create lib reader s.files c
    (⟨r.1, s.handles ++ r.2.toOption.toList⟩, r.2)

/-! ### One call -/

/-- A call that gets as far as to write a body, to a file that is open and does not hold just what
is written. -/
def Overwrites (s : Live) (c : Create) : Prop :=
  ∃ call body contents, c = .fromUrl call ∧ Downloads lib s.files call body ∧
    call.write.written body = some contents ∧
    ∃ handle ∈ s.handles, handle.path = dbPath lib call.url ∧ handle.mapped s.files ≠ contents

variable {lib reader} {s : Live} {c : Create} {handle : Handle}

lemma mem_handles_step (h : handle ∈ s.handles) :
    handle ∈ ((liveMachine lib reader).step s c).1.handles :=
  List.mem_append_left _ h

/-- The file of a URL is the only one that a download touches. -/
lemma store_files (files : Files) (call : Call) (body : List UInt8) :
    (store lib files call body).1
      = (files.write (dbPath lib call.url) body call.writtenAt call.write).1 := by
  by_cases hopens : Opens lib call body
  · rw [store_of_opens hopens, hopens.write]
    rfl
  · obtain ⟨e, heq⟩ : ∃ e, store lib files call body = (_, .error e) := store_of_not_opens hopens
    rw [heq]

lemma mapped_put_self {files : Files} {path : String} {contents : List UInt8} {time : ℤ}
    (h : handle.path = path) : handle.mapped (files.put path contents time) = contents := by
  subst h
  simp [Handle.mapped]

lemma mapped_put_of_ne {files : Files} {path : String} {contents : List UInt8} {time : ℤ}
    (h : handle.path ≠ path) :
    handle.mapped (files.put path contents time) = handle.mapped files := by
  simp [Handle.mapped, Files.put, Function.update_of_ne h]

/-- A call that does not overwrite an open file leaves all open files alone. -/
lemma mapped_step (hno : ¬Overwrites lib s c) (hmem : handle ∈ s.handles) :
    handle.mapped ((liveMachine lib reader).step s c).1.files = handle.mapped s.files := by
  cases c with
  | fromAbsolutePath path mmap => rfl
  | fromUrl call =>
    change handle.mapped (createGeoipFromUrl lib s.files call).1 = handle.mapped s.files
    by_cases hdownloads : ∃ body, Downloads lib s.files call body
    · obtain ⟨body, hbody⟩ := hdownloads
      rw [createGeoipFromUrl_of_downloads hbody, store_files]
      cases hwritten : call.write.written body with
      | none => rw [Files.write_of_not_written hwritten]
      | some contents =>
        rw [Files.write_of_written hwritten]
        by_cases hpath : handle.path = dbPath lib call.url
        · rw [mapped_put_self hpath]
          by_contra hne
          exact hno ⟨call, body, contents, rfl, hbody, hwritten, handle, hmem, hpath, Ne.symm hne⟩
        · exact mapped_put_of_ne hpath
    · rw [files_of_not_downloads (not_exists.mp hdownloads)]

lemma Overwrites.changed (reader : Reader) (h : Overwrites lib s c) : ∃ handle ∈ s.handles,
    handle.mapped ((liveMachine lib reader).step s c).1.files ≠ handle.mapped s.files := by
  obtain ⟨call, body, contents, rfl, hbody, hwritten, handle, hmem, hpath, hne⟩ := h
  refine ⟨handle, hmem, ?_⟩
  change handle.mapped (createGeoipFromUrl lib s.files call).1 ≠ handle.mapped s.files
  rw [createGeoipFromUrl_of_downloads hbody, store_files, Files.write_of_written hwritten,
    mapped_put_self hpath]
  exact Ne.symm hne

/-! ### Every sequence of calls -/

/-- From the call that opens a database on, no call changes what it sees or what it answers. -/
def Steady (lib : Library) (reader : Reader) (files : Files) (calls : List Create) : Prop :=
  ∀ first later rest, calls = first ++ later ++ rest →
    let opened := (liveMachine lib reader).run ⟨files, []⟩ first
    let after := (liveMachine lib reader).run opened later
    ∀ handle ∈ opened.handles, handle.mapped after.files = handle.mapped opened.files ∧
      ∀ ip, lookup reader after.files handle ip = lookup reader opened.files handle ip

lemma lookup_congr {files files' : Files} (h : handle.mapped files' = handle.mapped files)
    (ip : String) : lookup reader files' handle ip = lookup reader files handle ip := by
  delta lookup
  rw [h]

/-- Open databases are steady along a sequence of calls, exactly if none of the calls overwrites
an open file. -/
theorem steady_iff_no_overwrites (files : Files) (calls : List Create) :
    Steady lib reader files calls ↔
    ∀ t ∈ (liveMachine lib reader).transitions ⟨files, []⟩ calls,
      ¬Overwrites lib t.before t.input := by
  constructor
  · intro hsteady t ht hover
    obtain ⟨first, rest, hcalls, hbefore⟩ := (liveMachine lib reader).split_of_mem_transitions ht
    obtain ⟨handle, hmem, hne⟩ := hover.changed reader
    rw [← hbefore] at hmem hne
    exact hne (hsteady first [t.input] rest (by simp [hcalls]) handle hmem).1
  · intro hno first later rest hcalls opened after handle hmem
    have hlater : ∀ t ∈ (liveMachine lib reader).transitions opened later,
        ¬Overwrites lib t.before t.input := by
      intro t ht
      apply hno t
      rw [hcalls, Machine.transitions_append, Machine.transitions_append]
      exact List.mem_append_left _ (List.mem_append_right _ ht)
    have hmapped : handle.mapped after.files = handle.mapped opened.files := by
      refine ((liveMachine lib reader).guarded_invariant
        (P := fun s => handle ∈ s.handles ∧ handle.mapped s.files = handle.mapped opened.files)
        (G := fun s c => ¬Overwrites lib s c) ?_ ⟨hmem, rfl⟩ hlater).2.2
      rintro s c ⟨hmem, heq⟩ hno
      exact ⟨mem_handles_step hmem, (mapped_step hno hmem).trans heq⟩
    exact ⟨hmapped, lookup_congr hmapped⟩

def newerDatabase : List UInt8 := 1 :: sampleDatabase

/-- A reader that finds every address in Australia, and in New Zealand after the update. -/
def sampleReader : Reader where
  canonicalPath path := path
  lookup _ mapped _ :=
    .ok (.ok (some ⟨some (if mapped = newerDatabase then "NZ" else "AU")⟩))

def firstUse : Create := .fromUrl (sampleCall 0 sampleDatabase)

def secondUse : Create := .fromUrl (sampleCall 7200 newerDatabase)

def sampleHandle : Handle := ⟨dbPath sampleLibrary "http://a.com/c.mmdb", sampleDatabase⟩

/-- A script asks for the same URL again when the interval is over, and the database that it had
before answers from the new file. -/
theorem not_steady_of_second_use :
    ¬Steady sampleLibrary sampleReader (fun _ => none) [firstUse, secondUse] ∧
    lookup sampleReader
      ((liveMachine sampleLibrary sampleReader).run ⟨fun _ => none, []⟩ [firstUse]).files
      sampleHandle "1.1.1.1" = "AU" ∧
    lookup sampleReader
      ((liveMachine sampleLibrary sampleReader).run ⟨fun _ => none, []⟩
        [firstUse, secondUse]).files
      sampleHandle "1.1.1.1" = "NZ" := by
  refine ⟨?_, by decide, by decide⟩
  intro hsteady
  have hmem : sampleHandle ∈
      ((liveMachine sampleLibrary sampleReader).run ⟨fun _ => none, []⟩ [firstUse]).handles := by
    decide
  have hsame := (hsteady [firstUse] [secondUse] [] rfl sampleHandle hmem).1
  exact absurd hsame (by decide)

end Dandelion.GeoIp

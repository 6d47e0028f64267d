import Dandelion.GeoIp

/-!
# Failed updates of a country database

A call that fails should leave the file of its URL as it was, so that nobody notices the failure
later. The file is written before it is known to be a database, though, and it is young then.
-/

namespace Dandelion.GeoIp

open Fs

/-- A call that changes the file of its URL and fails: the file is written only in part, or cannot
be opened. -/
def Spoils (lib : Library) (files : Files) (call : Call) : Prop :=
  ∃ body contents, Downloads lib files call body ∧ call.write.written body = some contents ∧
    ¬Opens lib call body ∧ files (dbPath lib call.url) ≠ some ⟨contents, call.writtenAt⟩

/-- A call has left the file of a URL alone, and nobody can tell that it was made. -/
structure Untouched (lib : Library) (url : String) (before after : Files) : Prop where
  file : after (dbPath lib url) = before (dbPath lib url)
  database : ∀ file, before (dbPath lib url) = some file → lib.isDatabase file.contents = true →
    ∃ file', after (dbPath lib url) = some file' ∧ lib.isDatabase file'.contents = true
  later : ∀ calls, (machine lib).answers after calls = (machine lib).answers before calls

variable {lib : Library} {files : Files} {call : Call}

lemma files_of_error (hspoils : ¬Spoils lib files call) {e : Error}
    (herror : (createGeoipFromUrl lib files call).2 = .error e) :
    (createGeoipFromUrl lib files call).1 = files := by
  by_cases hdownloads : ∃ body, Downloads lib files call body
  · obtain ⟨body, hbody⟩ := hdownloads
    rw [createGeoipFromUrl_of_downloads hbody] at herror ⊢
    by_cases hopens : Opens lib call body
    · rw [store_of_opens hopens] at herror
      cases herror
    · obtain ⟨e', hstore⟩ := store_of_not_opens hopens
      rw [hstore]
      cases hwritten : call.write.written body with
      | none => exact Files.write_of_not_written hwritten
      | some contents =>
        have hfile : files (dbPath lib call.url) = some ⟨contents, call.writtenAt⟩ := by
          by_contra hne
          exact hspoils ⟨body, contents, hbody, hwritten, hopens, hne⟩
        rw [Files.write_of_written hwritten, Files.put_eq_self hfile]
  · exact files_of_not_downloads (not_exists.mp hdownloads)

lemma Spoils.changed (h : Spoils lib files call) :
    (∃ e, (createGeoipFromUrl lib files call).2 = .error e) ∧
    (createGeoipFromUrl lib files call).1 (dbPath lib call.url) ≠ files (dbPath lib call.url) := by
  obtain ⟨body, contents, hdownloads, hwritten, hopens, hne⟩ := h
  obtain ⟨e, hstore⟩ := store_of_not_opens hopens
  rw [createGeoipFromUrl_of_downloads hdownloads, hstore, Files.write_of_written hwritten,
    Files.put_self]
  exact ⟨⟨e, rfl⟩, Ne.symm hne⟩

lemma untouched_refl (url : String) (files : Files) : Untouched lib url files files where
  file := rfl
  database file hfile hdatabase := ⟨file, hfile, hdatabase⟩
  later _ := rfl

/-- A call leaves everything alone when it fails, exactly if it does not spoil a file. -/
lemma untouched_iff_not_spoils (files : Files) (call : Call) :
    (∀ e, (createGeoipFromUrl lib files call).2 = .error e →
      Untouched lib call.url files (createGeoipFromUrl lib files call).1) ↔
    ¬Spoils lib files call := by
  constructor
  · intro h hspoils
    obtain ⟨⟨e, herror⟩, hchanged⟩ := hspoils.changed
    exact hchanged (h e herror).file
  · intro hspoils e herror
    rw [files_of_error hspoils herror]
    exact untouched_refl call.url files

/-- Along every history of calls, each call that fails leaves everything alone, exactly if no call
of the history spoils a file. -/
theorem failures_untouched_iff_no_spoils (files : Files) (calls : List Call) :
    (∀ t ∈ (machine lib).transitions files calls, ∀ e, t.answer = .error e →
      Untouched lib t.input.url t.before t.after) ↔
    ∀ t ∈ (machine lib).transitions files calls, ¬Spoils lib t.before t.input := by
  apply (machine lib).forall_transitions_iff (P := fun _ => True)
    (G := fun files call => ¬Spoils lib files call)
  · intro files call _
    exact untouched_iff_not_spoils files call
  · intro _ _ _ _
    trivial
  · trivial

/-- The marker in front of the metadata of a database. A real reader wants more than that; the
library below looks for nothing else. -/
def sampleDatabase : List UInt8 := [0xAB, 0xCD, 0xEF] ++ "MaxMind.com".utf8Bytes

/-- A library that takes every file with the marker of a database for one. -/
def sampleLibrary : Library where
  tempDir := "/tmp"
  urlHash _ := "13c5bb22e8016f111980687d7b7d2659297458f75f70306494a5cca5668bfe0e"
  parseUrl text := some ⟨text, "http", some "a.com", none⟩
  buildRequest _ := .ok ()
  isDatabase contents := contents.tails.any sampleDatabase.isPrefixOf

/-- A call at the given second, to which the server answers with a body. -/
def sampleCall (second : ℤ) (body : List UInt8) : Call where
  url := "http://a.com/c.mmdb"
  updateInterval := 3600
  createDirAll := true
  metadata := true
  modified := true
  now := second * 1000000000
  handler _ := .ok ()
  handshake := .ok ()
  sendRequest := .ok ⟨200, .ok body⟩
  write := .done
  writtenAt := second * 1000000000
  mmap := true

def oldFiles : Files := Files.put (fun _ => none)
  (dbPath sampleLibrary "http://a.com/c.mmdb") sampleDatabase 0

def errorPage : Call := sampleCall 7200 "Please log in".utf8Bytes

def retry : Call := sampleCall 7260 sampleDatabase

/-- An error page with status 200 takes the place of an old database, and for an hour every call
fails that would have downloaded a new one. -/
theorem not_untouched_of_error_page :
    (¬∀ t ∈ (machine sampleLibrary).transitions oldFiles [errorPage], ∀ e, t.answer = .error e →
      Untouched sampleLibrary t.input.url t.before t.after) ∧
    (machine sampleLibrary).answers oldFiles [errorPage, retry]
      = [.error (.context "Failed to open downloaded GeoIP database"),
          .error (.context "Failed to open existing GeoIP database")] ∧
    (machine sampleLibrary).answers oldFiles [retry]
      = [.ok ⟨dbPath sampleLibrary retry.url, sampleDatabase⟩] := by
  refine ⟨?_, rfl, rfl⟩
  intro h
  have huntouched := h _ List.mem_cons_self _ rfl
  exact absurd huntouched.file (by decide)

end Dandelion.GeoIp

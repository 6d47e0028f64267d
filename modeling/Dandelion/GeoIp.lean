import Dandelion.Core.Files
import Dandelion.Core.Machine
import Dandelion.Endpoint

/-!
# Country databases

A country database is downloaded through a connection that a routing script makes, and kept in a
file that is named by the hash of the URL. While the file is younger than an interval, it is used
as it is.
-/

namespace Dandelion.GeoIp

open Fs

structure Url where
  text : String
  scheme : String
  domain : Option String
  port : Option UInt16

/-- What the libraries decide. -/
structure Library where
  /-- The directory for temporary files. -/
  tempDir : String
  /-- The SHA-256 hash of a URL in hexadecimal digits. -/
  urlHash : String → String
  parseUrl : String → Option Url
  /-- Whether the request for a URL can be built. -/
  buildRequest : Url → Except String Unit
  /-- Whether the contents of a file are a database. -/
  isDatabase : List UInt8 → Bool

structure Response where
  status : ℕ
  /-- The body, unless the connection fails before its end. -/
  body : Except String (List UInt8)

/-- The arguments of a call, and what it meets with. -/
structure Call where
  url : String
  /-- In seconds. -/
  updateInterval : UInt64
  createDirAll : Bool
  metadata : Bool
  modified : Bool
  /-- The time when the age of the file is looked at. -/
  now : ℤ
  handler : Endpoint → Except String Unit
  handshake : Except String Unit
  sendRequest : Except String Response
  write : WriteResult
  /-- The time when the file is written. -/
  writtenAt : ℤ
  /-- Whether the file can be opened and mapped, whatever it holds. -/
  mmap : Bool

inductive Error where
  /-- An error of the call itself. -/
  | context (message : String)
  /-- An error that is passed on. -/
  | source (message : String)
  /-- `HTTP request failed: ` with the status and the body. -/
  | status (status : ℕ) (body : List UInt8)
deriving DecidableEq

/-- An open database: the file that is mapped, and what it held when it was opened. -/
structure Handle where
  path : String
  opened : List UInt8
deriving DecidableEq

variable (lib : Library)

def dbPath (url : String) : String :=
  lib.tempDir ++ "/dandelion/geoip/" ++ lib.urlHash url ++ ".mmdb"

def openMmap (files : Files) (path : String) (mmap : Bool) : Option Handle :=
  match files path with
  | none      => none
  | some file =>
    if mmap && lib.isDatabase file.contents then some ⟨path, file.contents⟩ else none

/-- Use the file that is there, unless there is none or it is too old. -/
def useCached (files : Files) (call : Call) : Option (Except Error Handle) :=
  match files (dbPath lib call.url) with
  | none      => none
  | some file =>
    if !call.metadata then some (.error (.context "Failed to read metadata"))
    else if !call.modified then some (.error (.context "Failed to get modified time"))
    else
      match file.elapsed call.now with
      | none => some (.error (.context "Failed to get elapsed time"))
      | some elapsed =>
        if elapsed < call.updateInterval.toNat * 1000000000 then
          match openMmap lib files (dbPath lib call.url) call.mmap with
          | none        => some (.error (.context "Failed to open existing GeoIP database"))
          | some handle => some (.ok handle)
        else none

/-- The endpoint that the script is asked to connect to. -/
def target (url : Url) (domain : String) : Endpoint :=
  .newFromDomain domain (url.port.getD (if url.scheme = "https" then 443 else 80))

def download (call : Call) : Except Error (List UInt8) :=
  match lib.parseUrl call.url with
  | none     => .error (.context "Failed to parse GeoIP database URL")
  | some url =>
    if url.scheme ≠ "https" ∧ url.scheme ≠ "http" then
      .error (.context ("Unsupported URL scheme: " ++ url.scheme))
    else
      match url.domain with
      | none => .error (.context ("GeoIP database URL must have a domain: " ++ url.text))
      | some domain => do
        (call.handler (target url domain)).mapError .source
        call.handshake.mapError .source
        (lib.buildRequest url).mapError .source
        let response ← call.sendRequest.mapError .source
        let body ← response.body.mapError .source
        if response.status ≠ 200 then .error (.status response.status body) else .ok body

/-- Keep a downloaded body, and open it. -/
def store (files : Files) (call : Call) (body : List UInt8) : Files × Except Error Handle :=
  match files.write (dbPath lib call.url) body call.writtenAt call.write with
  | (files, false) => (files, .error (.context "Failed to write GeoIP database"))
  | (files, true)  =>
    match openMmap lib files (dbPath lib call.url) call.mmap with
    | none        => (files, .error (.context "Failed to open downloaded GeoIP database"))
    | some handle => (files, .ok handle)

def createGeoipFromUrl (files : Files) (call : Call) : Files × Except Error Handle :=
  if !call.createDirAll then (files, .error (.context "Failed to create temp directory"))
  else
    match useCached lib files call with
    | some answer => (files, answer)
    | none =>
      match download lib call with
      | .error e => (files, .error e)
      | .ok body => store lib files call body

/-- One call after the other. -/
def machine : Machine Files Call (Except Error Handle) where
  step := createGeoipFromUrl lib

/-! ### What a call does -/

/-- A file that is not there, or that is too old. -/
def Stale (files : Files) (call : Call) : Prop :=
  ∀ file ∈ files (dbPath lib call.url), call.metadata = true ∧ call.modified = true ∧
    file.modified ≤ call.now ∧
    call.updateInterval.toNat * 1000000000 ≤ call.now - file.modified

/-- The URL is fit for a download, the script makes a connection, and the server answers with
status 200 and a body. -/
def Delivers (call : Call) (body : List UInt8) : Prop :=
  ∃ url domain, lib.parseUrl call.url = some url ∧ (url.scheme = "https" ∨ url.scheme = "http") ∧
    url.domain = some domain ∧ call.handler (target url domain) = .ok () ∧
    call.handshake = .ok () ∧ lib.buildRequest url = .ok () ∧
    call.sendRequest = .ok ⟨200, .ok body⟩

/-- A call that gets as far as to write a body. -/
structure Downloads (files : Files) (call : Call) (body : List UInt8) : Prop where
  createDirAll : call.createDirAll = true
  stale : Stale lib files call
  delivers : Delivers lib call body

variable {lib} {files : Files} {call : Call} {body : List UInt8}

lemma useCached_eq_none_iff : useCached lib files call = none ↔ Stale lib files call := by
  unfold useCached Stale
  cases files (dbPath lib call.url) with
  | none => simp
  | some file =>
    cases call.metadata with
    | false => simp
    | true =>
      cases call.modified with
      | false => simp
      | true =>
        by_cases hclock : file.modified ≤ call.now
        · by_cases hage : call.now - file.modified < call.updateInterval.toNat * 1000000000
          · simp only [File.elapsed, hclock, hage, if_true]
            cases openMmap lib files (dbPath lib call.url) call.mmap <;> simp [not_le.mpr hage]
          · simp [File.elapsed, hclock, hage, not_lt.mp hage]
        · simp [File.elapsed, hclock]

lemma mapError_eq_ok_iff {ε ε' α : Type} {f : ε → ε'} {r : Except ε α} {a : α} :
    r.mapError f = .ok a ↔ r = .ok a := by
  cases r <;> simp [Except.mapError]

lemma bind_eq_ok_iff {ε α β : Type} {r : Except ε α} {f : α → Except ε β} {b : β} :
    (r >>= f) = .ok b ↔ ∃ a, r = .ok a ∧ f a = .ok b := by
  cases r <;> simp [bind, Except.bind]

lemma download_eq_ok_iff : download lib call = .ok body ↔ Delivers lib call body := by
  rw [download]
  constructor
  · intro h
    split at h
    case h_1 => cases h
    case h_2 url hurl =>
      split at h
      case isTrue => cases h
      case isFalse hscheme =>
        split at h
        case h_1 => cases h
        case h_2 domain hdomain =>
          simp only [bind_eq_ok_iff, mapError_eq_ok_iff] at h
          obtain ⟨⟨⟩, hhandler, ⟨⟩, hhandshake, ⟨⟩, hrequest, response, hresponse, bytes, hbody,
            hanswer⟩ := h
          split at hanswer
          case isTrue => cases hanswer
          case isFalse hstatus =>
            cases hanswer
            have hscheme : url.scheme = "https" ∨ url.scheme = "http" := by
              by_contra hnot
              exact hscheme (not_or.mp hnot)
            obtain ⟨status, body⟩ := response
            obtain rfl : status = 200 := not_not.mp hstatus
            cases hbody
            exact ⟨url, domain, hurl, hscheme, hdomain, hhandler, hhandshake, hrequest, hresponse⟩
  · rintro ⟨url, domain, hurl, hscheme, hdomain, hhandler, hhandshake, hrequest, hresponse⟩
    have hfit : ¬(url.scheme ≠ "https" ∧ url.scheme ≠ "http") := by
      rintro ⟨hhttps, hhttp⟩
      exact hscheme.elim hhttps hhttp
    simp only [hurl, if_neg hfit, hdomain, bind_eq_ok_iff, mapError_eq_ok_iff]
    exact ⟨(), hhandler, (), hhandshake, (), hrequest, _, hresponse, body, rfl, rfl⟩

/-- A call that does not get as far as to write leaves all files alone. -/
lemma files_of_not_downloads (h : ∀ body, ¬Downloads lib files call body) :
    (createGeoipFromUrl lib files call).1 = files := by
  rw [createGeoipFromUrl]
  split
  case isTrue => rfl
  case isFalse hdir =>
    split
    case h_1 => rfl
    case h_2 hcached =>
      split
      case h_1 => rfl
      case h_2 body hbody =>
        have hdownloads : Downloads lib files call body :=
          ⟨by simpa using hdir, useCached_eq_none_iff.mp hcached, download_eq_ok_iff.mp hbody⟩
        exact absurd hdownloads (h body)

lemma createGeoipFromUrl_of_downloads (h : Downloads lib files call body) :
    createGeoipFromUrl lib files call = store lib files call body := by
  simp [createGeoipFromUrl, h.createDirAll, useCached_eq_none_iff.mpr h.stale,
    download_eq_ok_iff.mpr h.delivers]

/-! ### What is kept of a body -/

/-- A body that is written and can be opened. -/
structure Opens (lib : Library) (call : Call) (body : List UInt8) : Prop where
  write : call.write = .done
  mmap : call.mmap = true
  isDatabase : lib.isDatabase body = true

lemma store_of_opens (h : Opens lib call body) :
    store lib files call body
      = (files.put (dbPath lib call.url) body call.writtenAt, .ok ⟨dbPath lib call.url, body⟩) := by
  simp [store, Files.write, openMmap, h.write, h.mmap, h.isDatabase]

lemma store_of_not_opens (h : ¬Opens lib call body) :
    ∃ e, store lib files call body
      = ((files.write (dbPath lib call.url) body call.writtenAt call.write).1, .error e) := by
  cases hwrite : call.write with
  | unopened => simp [store, Files.write, hwrite]
  | partway n => simp [store, Files.write, hwrite]
  | done =>
    have hclosed : (call.mmap && lib.isDatabase body) = false := by
      apply eq_false_of_ne_true
      intro hopen
      rw [Bool.and_eq_true] at hopen
      exact h ⟨hwrite, hopen.1, hopen.2⟩
    simp [store, Files.write, openMmap, hwrite, hclosed]

end Dandelion.GeoIp

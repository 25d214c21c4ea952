import HostAttestation.Proofs.Bytes.Utf8
import HostAttestation.Proofs.Outcome
import HostAttestation.Trust
import Mathlib.Data.List.Sort

/-! # Certificates of a directory

Which files hold certificates is told by their names, and the names also put them in order. The
order in which a directory is listed, and what it holds besides these files, does not matter. -/

namespace HostAttestation

namespace DirectoryEntry

variable {entries others files otherFiles : List DirectoryEntry}

/-! ## Names -/

/-- A dot and the extension stand at the end of the name, and something in front of them. -/
def HasExtension (name extension : Bytes) : Prop :=
  ∃ stem, stem ≠ [] ∧ name = stem ++ dot :: extension

theorem hasExtension_of_extension? {name extension : Bytes}
    (found : extension? name = some extension) : HasExtension name extension := by
  unfold extension? at found
  split at found
  next mark before stem behind =>
    cases found
    have whole := List.takeWhile_append_dropWhile (p := (· ≠ dot)) (l := name.reverse)
    have marked : mark = dot := by
      have stops := List.head?_dropWhile_not (· ≠ dot) name.reverse
      rw [behind] at stops
      simpa using stops
    refine ⟨(before :: stem).reverse, by simp, ?_⟩
    rw [behind, marked] at whole
    have turned := congrArg List.reverse whole
    simpa using turned.symm
  next => cases found

theorem extension?_of_hasExtension {name extension : Bytes} (dotless : dot ∉ extension)
    (has : HasExtension name extension) : extension? name = some extension := by
  rcases has with ⟨stem, nonempty, rfl⟩
  have turned : (stem ++ dot :: extension).reverse = extension.reverse ++ dot :: stem.reverse := by
    simp
  have undotted : ∀ byte ∈ extension.reverse, decide (byte ≠ dot) = true := by
    intro byte member
    have inside : byte ∈ extension := List.mem_reverse.mp member
    exact decide_eq_true fun equal => dotless (equal ▸ inside)
  have stops : decide (dot ≠ dot) = false := by
    simp
  unfold extension?
  rw [turned, List.dropWhile_append_of_pos undotted, List.takeWhile_append_of_pos undotted,
    List.dropWhile_cons_of_neg (by simp), List.takeWhile_cons_of_neg (by simp)]
  cases reversed : stem.reverse with
  | nil => exact absurd (List.reverse_eq_nil_iff.mp reversed) nonempty
  | cons last rest => simp

/-- A regular file with one of the extensions of certificates. -/
def IsCertificateFile (entry : DirectoryEntry) : Prop :=
  (∃ bytes, entry.content = .file bytes) ∧
    (HasExtension entry.name (Utf8.encode "pem") ∨ HasExtension entry.name (Utf8.encode "crt"))

theorem dot_not_mem_certificateExtensions :
    ∀ extension ∈ certificateExtensions, dot ∉ extension := by
  decide +kernel

theorem isCertificate_iff (entry : DirectoryEntry) :
    entry.isCertificate ↔ entry.IsCertificateFile := by
  have named : (extension? entry.name).any certificateExtensions.contains ↔
      ∃ extension ∈ certificateExtensions, HasExtension entry.name extension := by
    rw [Option.any_eq_true]
    constructor
    · rintro ⟨extension, found, listed⟩
      exact ⟨extension, List.contains_iff_mem.mp listed, hasExtension_of_extension? found⟩
    · rintro ⟨extension, listed, has⟩
      have dotless := dot_not_mem_certificateExtensions extension listed
      exact ⟨extension, extension?_of_hasExtension dotless has, List.contains_iff_mem.mpr listed⟩
  have isFile : entry.content.isFile ↔ ∃ bytes, entry.content = .file bytes := by
    cases entry.content <;> simp [DirectoryItem.isFile]
  rw [isCertificate, Bool.and_eq_true, isFile, named, IsCertificateFile]
  simp [certificateExtensions]

/-! ## The order of names -/

/-- The files are those of the entries that hold certificates, each of them once, in ascending
order of their names. -/
structure AreCertificatesOf (entries files : List DirectoryEntry) : Prop where
  complete : ∀ file, file ∈ files ↔ file ∈ entries ∧ file.IsCertificateFile
  ascending : files.Pairwise fun left right => left.name < right.name

theorem pairwise_certificateFiles (entries : List DirectoryEntry) :
    (certificateFiles entries).Pairwise fun left right => left.name ≤ right.name := by
  have transitive : ∀ first second third : DirectoryEntry,
      precedes first second → precedes second third → precedes first third :=
    fun _ _ _ before behind =>
      decide_eq_true (Std.le_trans (of_decide_eq_true before) (of_decide_eq_true behind))
  have total : ∀ first second : DirectoryEntry, precedes first second || precedes second first :=
    fun first second => by simpa [precedes] using Std.le_total
  have sorted := List.pairwise_mergeSort transitive total (entries.filter isCertificate)
  exact sorted.imp fun before => of_decide_eq_true before

theorem areCertificatesOf_certificateFiles (distinct : (entries.map name).Nodup) :
    AreCertificatesOf entries (certificateFiles entries) := by
  have perm : (certificateFiles entries).Perm (entries.filter isCertificate) :=
    List.mergeSort_perm _ _
  constructor
  · intro file
    rw [perm.mem_iff, List.mem_filter, isCertificate_iff]
  · have apart : (certificateFiles entries).Pairwise fun left right => left.name ≠ right.name := by
      have filtered := (List.filter_sublist (p := isCertificate)).map name |>.nodup distinct
      exact List.pairwise_map.mp ((perm.map name).nodup_iff.mpr filtered)
    exact ((pairwise_certificateFiles entries).and apart).imp fun both =>
      Std.lt_of_le_of_ne both.1 both.2

instance : Std.Irrefl fun left right : DirectoryEntry => left.name < right.name :=
  ⟨fun entry => List.lt_irrefl entry.name⟩

instance : Std.Antisymm fun left right : DirectoryEntry => left.name < right.name :=
  ⟨fun _ _ before behind => absurd behind (List.lt_asymm before)⟩

/-- Entries that have the same certificates among them give the same files. -/
theorem AreCertificatesOf.unique (are : AreCertificatesOf entries files)
    (otherAre : AreCertificatesOf others otherFiles)
    (same : ∀ entry, entry.IsCertificateFile → (entry ∈ entries ↔ entry ∈ others)) :
    files = otherFiles := by
  apply are.ascending.eq_of_mem_iff otherAre.ascending
  intro file
  rw [are.complete, otherAre.complete]
  exact and_congr_left (same file)

/-! ## Contents -/

/-- The file can be read and holds the text. -/
def Holds (file : DirectoryEntry) (text : String) : Prop :=
  file.content = .file (some (Utf8.encode text))

end DirectoryEntry

namespace TrustMaterial

open Connector (ConfigurationFault)
open DirectoryEntry (AreCertificatesOf IsCertificateFile Holds certificateFiles)

variable {entries files : List DirectoryEntry}

theorem readFile_eq_ok_iff (file : DirectoryEntry) (text : String) :
    readFile file = .ok text ↔ file.Holds text := by
  rw [readFile, Holds]
  cases file.content with
  | file bytes =>
      cases bytes with
      | none => simp [DirectoryItem.bytes?]
      | some bytes =>
          rw [DirectoryItem.file.injEq, Option.some_inj, ← Utf8.decode?_eq_some_iff]
          simp only [DirectoryItem.bytes?, Option.bind_some]
          cases Utf8.decode? bytes <;> simp
  | other => simp [DirectoryItem.bytes?]

theorem readFile_eq_error_iff (file : DirectoryEntry) (fault : ConfigurationFault) :
    readFile file = .error fault ↔
      (∀ text, ¬file.Holds text) ∧ fault = .certificateFile file.name := by
  simp only [← readFile_eq_ok_iff, readFile]
  cases file.content.bytes?.bind Utf8.decode? <;> simp [eq_comm]

theorem loadDirectory_eq_ok_iff (trust : TrustMaterial) (entries : List DirectoryEntry)
    (result : TrustMaterial) :
    trust.loadDirectory (some entries) = .ok result ↔
      ∃ texts, List.Forall₂ Holds (certificateFiles entries) texts ∧
        result = { trust with certificates := trust.certificates ++ texts } := by
  change ((certificateFiles entries).mapM readFile >>= fun texts =>
    Except.ok { trust with certificates := trust.certificates ++ texts }) = .ok result ↔ _
  rw [Outcome.bind_eq_ok_iff]
  simp only [Outcome.mapM_eq_ok_iff, readFile_eq_ok_iff, Except.ok.injEq, eq_comm (b := result)]

theorem loadDirectory_eq_error_iff (trust : TrustMaterial) (entries : List DirectoryEntry)
    (fault : ConfigurationFault) :
    trust.loadDirectory (some entries) = .error fault ↔
      ∃ before file after, certificateFiles entries = before ++ file :: after ∧
        (∀ other ∈ before, ∃ text, other.Holds text) ∧ (∀ text, ¬file.Holds text) ∧
        fault = .certificateFile file.name := by
  change ((certificateFiles entries).mapM readFile >>= fun texts =>
    Except.ok { trust with certificates := trust.certificates ++ texts }) = .error fault ↔ _
  have passes : ∀ texts, Except.ok (ε := ConfigurationFault)
      { trust with certificates := trust.certificates ++ texts } ≠ .error fault := by
    intro texts impossible
    cases impossible
  rw [Outcome.bind_eq_error_iff, or_iff_left fun later => passes _ later.choose_spec.2,
    Outcome.mapM_eq_error_iff]
  simp only [readFile_eq_ok_iff, readFile_eq_error_iff]

theorem loadDirectory_eq_of_certificateFiles_eq (trust : TrustMaterial)
    {others : List DirectoryEntry} (same : certificateFiles others = certificateFiles entries) :
    trust.loadDirectory (some others) = trust.loadDirectory (some entries) := by
  rw [loadDirectory, loadDirectory, same]

/-- Where trust material is found, it is only misconfigured. -/
theorem kind_of_load {settings : TrustSettings}
    {listing : String → Option (List DirectoryEntry)} {error : Connector.Error}
    (fails : settings.load listing = .error error) : error.kind = "Configuration" := by
  rcases Outcome.mapError_eq_error_iff.mp fails with ⟨fault, _, rfl⟩
  rfl

/-- Of a directory whose entries have different names, only the certificates are loaded, and in
the order of their names. The first one that holds no text is named instead. -/
theorem loadDirectory_loads_certificates (trust : TrustMaterial) (entries : List DirectoryEntry)
    (distinct : (entries.map DirectoryEntry.name).Nodup) :
    (∃ files, AreCertificatesOf entries files ∧
      (∀ result, trust.loadDirectory (some entries) = .ok result ↔
        ∃ texts, List.Forall₂ Holds files texts ∧
          result = { trust with certificates := trust.certificates ++ texts }) ∧
      ∀ fault, trust.loadDirectory (some entries) = .error fault ↔
        ∃ before file after, files = before ++ file :: after ∧
          (∀ other ∈ before, ∃ text, other.Holds text) ∧ (∀ text, ¬file.Holds text) ∧
          fault = .certificateFile file.name) ∧
    (∀ listing, listing.Perm entries →
      trust.loadDirectory (some listing) = trust.loadDirectory (some entries)) ∧
    (∀ others, (others.map DirectoryEntry.name).Nodup →
      (∀ entry, entry.IsCertificateFile → (entry ∈ others ↔ entry ∈ entries)) →
        trust.loadDirectory (some others) = trust.loadDirectory (some entries)) ∧
    trust.loadDirectory none = .error .certificateDirectory ∧
    ∀ settings listing error, TrustSettings.load settings listing = .error error →
      error.kind = "Configuration" := by
  have are := DirectoryEntry.areCertificatesOf_certificateFiles distinct
  have alike : ∀ others, (others.map DirectoryEntry.name).Nodup →
      (∀ entry, entry.IsCertificateFile → (entry ∈ others ↔ entry ∈ entries)) →
        trust.loadDirectory (some others) = trust.loadDirectory (some entries) := by
    intro others otherDistinct same
    have otherAre := DirectoryEntry.areCertificatesOf_certificateFiles otherDistinct
    exact trust.loadDirectory_eq_of_certificateFiles_eq (otherAre.unique are same)
  refine ⟨⟨_, are, trust.loadDirectory_eq_ok_iff entries,
      trust.loadDirectory_eq_error_iff entries⟩, ?_, alike, rfl,
    fun settings listing error => kind_of_load⟩
  intro listing perm
  exact alike listing ((perm.map DirectoryEntry.name).nodup_iff.mpr distinct) fun entry _ =>
    perm.mem_iff

/-- A directory listed out of order, with a note that cannot be read, a file that has no more than
an extension, and something that is called like a certificate but is no file. -/
def mixedDirectory : List DirectoryEntry :=
  [⟨Utf8.encode "b.pem", .file (some (Utf8.encode "B"))⟩, ⟨Utf8.encode "notes.txt", .file none⟩,
    ⟨Utf8.encode "a.b.crt", .file (some (Utf8.encode "A"))⟩,
    ⟨Utf8.encode ".pem", .file (some [0xFF])⟩, ⟨Utf8.encode "old.pem", .other⟩]

theorem loadDirectory_loads_certificates_mixed :
    (mixedDirectory.map DirectoryEntry.name).Nodup ∧
    TrustMaterial.loadDirectory ⟨none, ["0"]⟩ (some mixedDirectory) = .ok ⟨none, ["0", "A", "B"]⟩ ∧
    ∀ listing, listing.Perm mixedDirectory →
      TrustMaterial.loadDirectory ⟨none, ["0"]⟩ (some listing) = .ok ⟨none, ["0", "A", "B"]⟩ := by
  have distinct : (mixedDirectory.map DirectoryEntry.name).Nodup := by
    decide +kernel
  have kept : mixedDirectory.filter DirectoryEntry.isCertificate =
      [⟨Utf8.encode "b.pem", .file (some (Utf8.encode "B"))⟩,
        ⟨Utf8.encode "a.b.crt", .file (some (Utf8.encode "A"))⟩] := by
    decide +kernel
  have sorted : DirectoryEntry.certificateFiles mixedDirectory =
      [⟨Utf8.encode "a.b.crt", .file (some (Utf8.encode "A"))⟩,
        ⟨Utf8.encode "b.pem", .file (some (Utf8.encode "B"))⟩] := by
    refine (DirectoryEntry.areCertificatesOf_certificateFiles distinct).unique
      ⟨fun file => ?_, by decide +kernel⟩ fun entry _ => Iff.rfl
    rw [← DirectoryEntry.isCertificate_iff, ← List.mem_filter, kept, List.mem_pair, List.mem_pair,
      or_comm]
  have loaded : TrustMaterial.loadDirectory ⟨none, ["0"]⟩ (some mixedDirectory) =
      .ok ⟨none, ["0", "A", "B"]⟩ := by
    rw [loadDirectory, sorted]
    decide +kernel
  refine ⟨distinct, loaded, fun listing perm => ?_⟩
  rw [(loadDirectory_loads_certificates _ mixedDirectory distinct).2.1 listing perm, loaded]

-- a certificate that cannot be read is named
example : TrustMaterial.loadDirectory {} (some [⟨Utf8.encode "a.pem", .file none⟩]) =
    .error (.certificateFile (Utf8.encode "a.pem")) := by
  decide +kernel

end TrustMaterial

end HostAttestation

import Clausal.Event
import Clausal.Proofs.Text.Utf8
import Clausal.Proofs.Value.Reader

/-!
# Files of settings

A file is looked at where the environment names one and says nothing else about the
settings.  One in JSON whose value is a record gives its settings, and one in UTF-8
that is not JSON is passed over with a warning.  Loading fails for the rest: files that
are not in UTF-8, values that are no records, and what the reader gives up on, which
only a file beyond its limits can hold.
-/

namespace Clausal.Settings

open Value (Unreadable)

/-! ## What a file holds -/

/-- The octets are in UTF-8. -/
def IsText (octets : List UInt8) : Prop :=
  ∃ cs : List Char, octets = cs.flatMap String.utf8EncodeChar

/-- The octets are these characters in UTF-8, and reading them has this outcome. -/
structure ReadsAs (room : Nat) (octets : List UInt8) (cs : List Char)
    (outcome : Except Unreadable Value) : Prop where
  encoded : octets = cs.flatMap String.utf8EncodeChar
  read_eq : Value.read room (unifyLines cs) = outcome

/-- The octets are in UTF-8, and reading their characters has this outcome. -/
def Reads (room : Nat) (octets : List UInt8) (outcome : Except Unreadable Value) : Prop :=
  ∃ cs, ReadsAs room octets cs outcome

/-- The octets are in UTF-8 and not JSON, for this reason. -/
inductive NoJson (room : Nat) (octets : List UInt8) : PassedOver → Prop
  | fault {cs : List Char} {fault : Value.Fault} {offset : Nat}
      (reads : ReadsAs room octets cs (.error (.fault fault offset))) :
      NoJson room octets (.noJson fault (.after ((unifyLines cs).take offset)))

/-- Settings cannot be made of the octets, nor are they passed over: they are not in
UTF-8, hold a value that is no record, or have an integer or a nesting that is too much
for the reader. -/
inductive Unusable (room : Nat) (octets : List UInt8) : Error → Prop
  | encoding {defect : Text.Utf8.Defect} (noText : ¬ IsText octets)
      (stops : Text.Utf8.decode octets = .error defect) :
      Unusable room octets (.settingsEncoding defect)
  | kind {v : Value} (reads : Reads room octets (.ok v))
      (noRecord : ∀ entries, v ≠ .record entries) :
      Unusable room octets (.settingsKind v.kindWord)
  | digits {count : Nat} (reads : Reads room octets (.error (.oversized count))) :
      Unusable room octets (.settingsDigits count)
  | depth {kind : String} (reads : Reads room octets (.error (.tooDeep kind))) :
      Unusable room octets (.settingsDepth kind)

/-- The settings that a record makes: the default ones where it has no entry for
them. -/
def ofRecord (entries : List (Text × Value)) : Settings where
  solver := ((Value.record entries).field? "solver").getD ({} : Settings).solver
  header := .bool (headerOf ((Value.record entries).field? "dimacs_header"))

variable {room : Nat} {octets : List UInt8}

/-! ## What is made of it -/

/-- What is made of the outcome of reading some characters. -/
def ofOutcome (cs : List Char) : Except Unreadable Value → Except Error (Except PassedOver Settings)
  | .ok v => (ofValue v).map .ok
  | .error (.oversized digits) => .error (.settingsDigits digits)
  | .error (.tooDeep kind) => .error (.settingsDepth kind)
  | .error (.fault fault offset) => .ok (.error (.noJson fault (.after (cs.take offset))))

theorem ReadsAs.ofContents_eq {cs : List Char} {outcome : Except Unreadable Value}
    (reads : ReadsAs room octets cs outcome) :
    ofContents room octets = ofOutcome (unifyLines cs) outcome := by
  obtain ⟨encoded, rfl⟩ := reads
  rw [ofContents, Text.Utf8.decode_eq_ok_iff.mpr encoded]
  rfl

/-- A record gives its settings. -/
theorem ofContents_of_record {entries : List (Text × Value)}
    (reads : Reads room octets (.ok (.record entries))) :
    ofContents room octets = .ok (.ok (ofRecord entries)) := by
  obtain ⟨cs, readsAs⟩ := reads
  exact readsAs.ofContents_eq

/-- What is not JSON is passed over. -/
theorem NoJson.ofContents_eq {why : PassedOver} (noJson : NoJson room octets why) :
    ofContents room octets = .ok (.error why) := by
  cases noJson with
  | fault reads => exact reads.ofContents_eq

theorem Unusable.ofContents_eq {e : Error} (unusable : Unusable room octets e) :
    ofContents room octets = .error e := by
  cases unusable with
  | encoding _ stops => rw [ofContents, stops]
  | @kind v reads noRecord =>
      obtain ⟨cs, readsAs⟩ := reads
      rw [readsAs.ofContents_eq]
      cases v with
      | record entries => exact absurd rfl (noRecord entries)
      | _ => rfl
  | digits reads =>
      obtain ⟨cs, readsAs⟩ := reads
      exact readsAs.ofContents_eq
  | depth reads =>
      obtain ⟨cs, readsAs⟩ := reads
      exact readsAs.ofContents_eq

/-- Every file is a record, or no JSON, or unusable. -/
theorem record_or_noJson_or_unusable (room : Nat) (octets : List UInt8) :
    (∃ entries, Reads room octets (.ok (.record entries))) ∨
      (∃ why, NoJson room octets why) ∨ ∃ e, Unusable room octets e := by
  cases decoded : Text.Utf8.decode octets with
  | error defect =>
      have noText : ¬ IsText octets := by
        rintro ⟨cs, encoded⟩
        cases decoded.symm.trans (Text.Utf8.decode_eq_ok_iff.mpr encoded)
      exact Or.inr (Or.inr ⟨_, .encoding noText decoded⟩)
  | ok cs =>
      have reads : ReadsAs room octets cs (Value.read room (unifyLines cs)) :=
        ⟨Text.Utf8.decode_eq_ok_iff.mp decoded, rfl⟩
      cases outcome : Value.read room (unifyLines cs) with
      | ok v =>
          rw [outcome] at reads
          cases v with
          | record entries => exact Or.inl ⟨entries, cs, reads⟩
          | _ => exact Or.inr (Or.inr ⟨_, .kind ⟨cs, reads⟩ nofun⟩)
      | error e =>
          rw [outcome] at reads
          cases e with
          | fault fault offset => exact Or.inr (Or.inl ⟨_, .fault reads⟩)
          | oversized digits => exact Or.inr (Or.inr ⟨_, .digits ⟨cs, reads⟩⟩)
          | tooDeep kind => exact Or.inr (Or.inr ⟨_, .depth ⟨cs, reads⟩⟩)

/-! ## Loading -/

variable {env : Environment} {files : Text → SettingsFile} {path : Text}

/-- The environment names a file of settings and says nothing else about them. -/
structure Names (env : Environment) (path : Text) : Prop where
  noSolver : env.nonempty? solverVariable = none
  noHeader : env.nonempty? headerVariable = none
  named : env.nonempty? pathVariable = some path

/-- What is loaded from a file with these contents at a path. -/
def loadedFrom (path : Text) : Except PassedOver Settings → LoadedSettings
  | .ok settings => { settings := settings }
  | .error why => { passedOver := some (path, why) }

theorem Names.load_eq (names : Names env path) (found : files path = .contents octets) :
    load room env files = (ofContents room octets).map (loadedFrom path) := by
  have silent : ofEnvironment? env = none := by
    rw [ofEnvironment?, names.noSolver, names.noHeader]
  rw [load, silent]
  dsimp only
  rw [names.named]
  dsimp only
  rw [found, ofFile]
  cases ofContents room octets with
  | error e => rfl
  | ok outcome => cases outcome <;> rfl

theorem Names.load_eq_error_iff (names : Names env path) (found : files path = .contents octets)
    {e : Error} : load room env files = .error e ↔ Unusable room octets e := by
  rw [names.load_eq found]
  constructor
  · intro failed
    obtain ⟨entries, reads⟩ | ⟨why, noJson⟩ | ⟨other, unusable⟩ :=
      record_or_noJson_or_unusable room octets
    · rw [ofContents_of_record reads] at failed
      contradiction
    · rw [noJson.ofContents_eq] at failed
      contradiction
    · rw [unusable.ofContents_eq] at failed
      cases failed
      exact unusable
  · intro unusable
    rw [unusable.ofContents_eq]
    rfl

/-- A text has as many octets as characters, or more. -/
theorem length_le_of_encoded {cs : List Char}
    (encoded : octets = cs.flatMap String.utf8EncodeChar) : cs.length ≤ octets.length := by
  subst encoded
  induction cs with
  | nil => exact Nat.le_refl 0
  | cons c cs ih =>
      have positive := c.utf8Size_pos
      rw [List.flatMap_cons, List.length_append, String.length_utf8EncodeChar, List.length_cons]
      omega

theorem length_unifyLines_le (cs : List Char) : (unifyLines cs).length ≤ cs.length := by
  fun_induction unifyLines cs with
  | case1 rest ih =>
      simp only [List.length_cons]
      omega
  | case2 rest _ ih => exact Nat.succ_le_succ ih
  | case3 c rest _ _ ih => exact Nat.succ_le_succ ih
  | case4 => exact Nat.le_refl 0

/-- The reader sees no more characters than the file has octets. -/
theorem ReadsAs.length_le {cs : List Char} {outcome : Except Unreadable Value}
    (reads : ReadsAs room octets cs outcome) : (unifyLines cs).length ≤ octets.length :=
  Nat.le_trans (length_unifyLines_le cs) (length_le_of_encoded reads.encoded)

/-- The reader gives up only on files beyond its limits. -/
theorem Unusable.within_limits {e : Error} (unusable : Unusable room octets e)
    (shallow : octets.length ≤ room) (short : octets.length ≤ Decimal.digitLimit) :
    ¬ IsText octets ∨ ∃ v, Reads room octets (.ok v) ∧ ∀ entries, v ≠ .record entries := by
  cases unusable with
  | encoding noText _ => exact Or.inl noText
  | kind reads noRecord => exact Or.inr ⟨_, reads, noRecord⟩
  | digits reads =>
      obtain ⟨cs, readsAs⟩ := reads
      have long := Value.digitLimit_lt_of_read readsAs.read_eq
      have shorter := readsAs.length_le
      omega
  | depth reads =>
      obtain ⟨cs, readsAs⟩ := reads
      have long := Value.room_lt_of_read readsAs.read_eq
      have shorter := readsAs.length_le
      omega

/-- A file that the environment names is loaded without a warning if it is JSON in UTF-8
with a record as its value, and the settings are those of the record.  It is passed over
with one warning if it is in UTF-8 and not JSON, and the settings are the default ones.
It is refused in all other cases, each with its own error.  A file is refused only if it
is not in UTF-8 or its value is no record, if it has no more octets than there is room
for open lists and records and than a numeral may have digits. -/
theorem load_file_spec (names : Names env path) (found : files path = .contents octets) :
    (∀ entries, Reads room octets (.ok (.record entries)) →
      ∃ loaded, load room env files = .ok loaded ∧ loaded.settings = ofRecord entries ∧
        Event.ofLoad loaded = []) ∧
    (∀ why, NoJson room octets why →
      ∃ loaded, load room env files = .ok loaded ∧ loaded.settings = {} ∧
        Event.ofLoad loaded = [.settingsPassedOver path why] ∧
        (Event.settingsPassedOver path why).severity = .warning) ∧
    (∀ e, load room env files = .error e ↔ Unusable room octets e) ∧
    ((∃ entries, Reads room octets (.ok (.record entries))) ∨
      (∃ why, NoJson room octets why) ∨ ∃ e, Unusable room octets e) ∧
    (octets.length ≤ room → octets.length ≤ Decimal.digitLimit →
      ((∃ e, load room env files = .error e) ↔ ¬ IsText octets ∨
        ∃ v, Reads room octets (.ok v) ∧ ∀ entries, v ≠ .record entries)) := by
  refine ⟨?_, ?_, fun e => names.load_eq_error_iff found,
    record_or_noJson_or_unusable room octets, ?_⟩
  · intro entries reads
    refine ⟨loadedFrom path (.ok (ofRecord entries)), ?_, rfl, rfl⟩
    rw [names.load_eq found, ofContents_of_record reads]
    rfl
  · intro why noJson
    refine ⟨loadedFrom path (.error why), ?_, rfl, rfl, rfl⟩
    rw [names.load_eq found, noJson.ofContents_eq]
    rfl
  · intro shallow short
    constructor
    · rintro ⟨e, failed⟩
      exact ((names.load_eq_error_iff found).mp failed).within_limits shallow short
    · rintro (noText | ⟨v, reads, noRecord⟩)
      · cases decoded : Text.Utf8.decode octets with
        | error defect =>
            exact ⟨_, (names.load_eq_error_iff found).mpr (.encoding noText decoded)⟩
        | ok cs => exact absurd ⟨cs, Text.Utf8.decode_eq_ok_iff.mp decoded⟩ noText
      · exact ⟨_, (names.load_eq_error_iff found).mpr (.kind reads noRecord)⟩

/-- The file holds an empty list, on two lines. -/
theorem load_file_spec_list :
    let env : Environment := ⟨[(pathVariable, "settings.json")]⟩
    let octets : List UInt8 := [0x5B, 0x0D, 0x0A, 0x5D]
    let files : Text → SettingsFile := fun _ => .contents octets
    Names env "settings.json" ∧ files "settings.json" = .contents octets ∧
      load 1 env files = .error (.settingsKind "list") := by
  intro env octets files
  have names : Names env "settings.json" := ⟨by decide, by decide, by decide⟩
  have found : files "settings.json" = .contents octets := rfl
  have reads : Reads 1 octets (.ok (.list [])) := ⟨['[', '\r', '\n', ']'], by decide, rfl⟩
  obtain ⟨-, -, refused, -, -⟩ := load_file_spec names found
  exact ⟨names, found, (refused (.settingsKind "list")).mpr (.kind reads nofun)⟩

/-- Neither an octet that starts nothing nor a value that is no record is passed over:
loading fails. -/
theorem not_load_passes_over :
    let env : Environment := ⟨[(pathVariable, "settings.json")]⟩
    load 1 env (fun _ => .contents [0xFF]) =
        .error (.settingsEncoding ⟨0, 0xFF, 1, .invalidStart⟩) ∧
      load 1 env (fun _ => .contents [0x5B, 0x5D]) = .error (.settingsKind "list") :=
  ⟨rfl, rfl⟩

end Clausal.Settings

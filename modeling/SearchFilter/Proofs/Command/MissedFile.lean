import SearchFilter.Proofs.Command.Session

/-!
# When an env file is reported as missing

The error is raised for whatever comes to no binding: for what is no regular file, but also for a
file that is there and has no binding or may not be loaded. On the other hand a path that is too
long to be looked up is not reported as missing.

* `outcome_load_eq_false_iff`: which contents come to no binding.
* `not_hasBinding_of_isRemarks`: blank lines and comments never do.
* `reportsAbsence_iff`: when a load reports that its file is missing.
-/

namespace SearchFilter

namespace EnvFile

variable {reader : Reader} {environment : Environment} {content : Text}

/-! ### Bindings -/

/-- One of the statements of a file is a binding, with a value or without. -/
def Reader.HasBinding (reader : Reader) (content : Text) : Prop :=
  ∃ line name written, (line, Statement.binding name written) ∈ reader.statements content

theorem bindings_eq_nil_iff (environment : Environment) (statements : List Statement) :
    bindings environment statements = [] ↔ ∀ statement ∈ statements, statement.name? = none := by
  induction statements using List.reverseRecOn with
  | nil => exact iff_of_true rfl (List.forall_mem_nil _)
  | append_singleton statements last ih =>
    rw [List.forall_mem_append, List.forall_mem_singleton]
    cases hname : last.name? with
    | none => rw [bindings_append_of_name?_eq_none hname, ih, and_iff_left rfl]
    | some name =>
      obtain ⟨written, rfl⟩ : ∃ written, last = .binding name written := by
        cases last with
        | binding other written => exact ⟨written, by rw [← Option.some.inj hname]⟩
        | nothing => cases hname
        | malformed => cases hname
      rw [bindings_append_binding]
      exact iff_of_false (OrderedMap.put_ne_nil _ _ _) (fun h => Option.some_ne_none _ h.2)

/-- Loading a text comes to no binding exactly if it has none, whatever the variables are. -/
theorem outcome_load_eq_false_iff :
    (reader.load environment content).outcome = .ok false ↔ ¬ reader.HasBinding content := by
  have hbindings : ¬ reader.HasBinding content ↔
      bindings environment ((reader.statements content).map Prod.snd) = [] := by
    rw [bindings_eq_nil_iff, List.forall_mem_map]
    constructor
    · rintro h ⟨line, statement⟩ hmem
      cases statement with
      | binding name written => exact absurd ⟨line, name, written, hmem⟩ h
      | nothing => rfl
      | malformed => rfl
    · rintro h ⟨line, name, written, hmem⟩
      cases h _ hmem
  rw [hbindings, outcome_load_eq_false_iff_bindings]

/-- A file of blank lines and comments has no binding. -/
theorem not_hasBinding_of_isRemarks
    (h : IsRemarks (unifyLineBreaks (dropByteOrderMark content))) :
    ¬ reader.HasBinding content := by
  rintro ⟨line, name, written, hmem⟩
  cases reader.name?_eq_none h _ hmem

end EnvFile

namespace Session

variable {files : Files} {environment : Environment} {session : Session}

/-! ### Files that are reported as missing -/

/-- The load fails with the error for a missing file exactly if there is no regular file at the
path. -/
def ReportsAbsence (files : Files) (environment : Environment) (session : Session) : Prop :=
  (session.load files environment).outcome = .error (.command (notFound session.envFile)) ↔
    ¬ ∃ content, files (Path.normalize session.envFile) = .found (.file content)

/-- There is a regular file at the path of a session, but it may not be loaded or has no binding. -/
def LeadsToNothing (files : Files) (environment : Environment) (session : Session) : Prop :=
  ∃ content, files (Path.normalize session.envFile) = .found (.file content) ∧
    (EnvFile.isDisabled environment = true ∨ ¬ session.reader.HasBinding content)

theorem outcome_loadFile_eq_false_iff :
    (loadFile files environment session.envFile session.reader).outcome = .ok false ↔
      files (Path.normalize session.envFile) = .absent ∨
        files (Path.normalize session.envFile) = .found .directory ∨
          LeadsToNothing files environment session := by
  unfold loadFile LeadsToNothing
  cases hlookup : files (Path.normalize session.envFile) with
  | absent => simp
  | nameTooLong => simp
  | found node =>
    cases node with
    | directory => simp
    | file content =>
      cases hdisabled : EnvFile.isDisabled environment with
      | true => simp
      | false => simp [EnvFile.outcome_load_eq_false_iff]

/-- The first load of a session fails with the error for a missing file exactly if loading the file
comes to no binding. -/
theorem outcome_load_eq_notFound_iff (hdotenv : session.dotenv = true)
    (hloaded : session.loaded = false) :
    (session.load files environment).outcome = .error (.command (notFound session.envFile)) ↔
      (loadFile files environment session.envFile session.reader).outcome = .ok false := by
  rw [load_eq_of_pending hdotenv hloaded]
  cases (loadFile files environment session.envFile session.reader).outcome with
  | error fault => simp
  | ok found => cases found <;> simp

/-- **When a file is reported as missing.** The error is raised for what is no regular file, unless
its path is too long, but also for a file that may not be loaded or has no binding, such as a file
of blank lines and comments. So the error says whether a file is there exactly if neither is the
case: the path can be looked up, and a file that is there may be loaded and has a binding. -/
theorem reportsAbsence_iff (files : Files) (environment : Environment) (session : Session)
    (hdotenv : session.dotenv = true) (hloaded : session.loaded = false) :
    (ReportsAbsence files environment session ↔
      files (Path.normalize session.envFile) ≠ .nameTooLong ∧
        ¬ LeadsToNothing files environment session) ∧
    ((session.load files environment).outcome = .error (.command (notFound session.envFile)) ↔
      files (Path.normalize session.envFile) = .absent ∨
        files (Path.normalize session.envFile) = .found .directory ∨
          LeadsToNothing files environment session) ∧
    ∀ content, files (Path.normalize session.envFile) = .found (.file content) →
      EnvFile.IsRemarks (EnvFile.unifyLineBreaks (EnvFile.dropByteOrderMark content)) →
        (session.load files environment).outcome =
          .error (.command (notFound session.envFile)) := by
  have hmissed : (session.load files environment).outcome =
      .error (.command (notFound session.envFile)) ↔
        files (Path.normalize session.envFile) = .absent ∨
          files (Path.normalize session.envFile) = .found .directory ∨
            LeadsToNothing files environment session :=
    (outcome_load_eq_notFound_iff hdotenv hloaded).trans outcome_loadFile_eq_false_iff
  refine ⟨?_, hmissed, fun content hfile hremarks => ?_⟩
  · -- only of a file that is there does the last condition say anything
    rw [ReportsAbsence, hmissed]
    cases hlookup : files (Path.normalize session.envFile) with
    | absent => simp [LeadsToNothing, hlookup]
    | nameTooLong => simp [LeadsToNothing, hlookup]
    | found node =>
      cases node with
      | directory => simp [LeadsToNothing, hlookup]
      | file content => simp
  · exact hmissed.2 (Or.inr (Or.inr
      ⟨content, hfile, Or.inr (EnvFile.not_hasBinding_of_isRemarks hremarks)⟩))

/-- A file with a key by itself is there, and is not reported as missing. -/
theorem reportsAbsence_of_key :
    let files : Files := fun _ => .found (.file "# keys\nKEY\n".toList)
    let session : Session := { dotenv := true }
    (session.dotenv = true ∧ session.loaded = false) ∧ ReportsAbsence files [] session := by
  intro files session
  refine ⟨⟨rfl, rfl⟩, (reportsAbsence_iff files [] session rfl rfl).1.2 ⟨nofun, ?_⟩⟩
  rintro ⟨content, hfile, hdisabled | hunbound⟩
  · cases hdisabled
  · -- the second line of the file is a binding
    obtain rfl : "# keys\nKEY\n".toList = content := Node.file.inj (Lookup.found.inj hfile)
    exact hunbound ⟨2, "KEY".toList, none, by decide⟩

/-- An empty file is there, and is reported as missing. -/
theorem not_reportsAbsence_empty :
    let files : Files := fun _ => .found (.file [])
    let session : Session := { dotenv := true }
    (session.load files []).outcome = .error (.command (notFound ".env".toList)) ∧
      files (Path.normalize session.envFile) = .found (.file []) ∧
        ¬ ReportsAbsence files [] session := by
  intro files session
  refine ⟨rfl, rfl, fun hreports => ?_⟩
  exact hreports.1 rfl ⟨[], rfl⟩

end Session

end SearchFilter

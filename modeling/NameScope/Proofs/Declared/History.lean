import NameScope.Proofs.Declared.Annotations
import NameScope.Proofs.Declared.Reordered
import NameScope.Proofs.Declared.Standing

/-!
# What a run of indexing leaves and reports

A package is indexed script by script. Both its tables and the reports about repeated names follow
from the list of all declarations that the run meets (`DeclFamily.met`), for structs and for funcs
on their own: nothing else of the history counts.

* one step: a declaration, a script (`filter_addDecls`, `Ran.add`);
* a run: any number of scripts (`addAll?_ran`).

**Results.** * `runs_keep_to_the_policy`: names, definitions and reports after a run.
-/
namespace NameScope

/-- Adds scripts one after the other, all of which must be of the package. -/
def PackageIndex.addAll? (config : Config) (types : TypeIndex) (index : PackageIndex) :
    List Script → Option (PackageIndex × List Diagnostic)
  | [] => some (index, [])
  | script :: scripts => do
    let (index, reports) ← index.add? config types script
    let (index, rest) ← index.addAll? config types scripts
    some (index, reports ++ rest)

/-! ## Repeated names -/

/-- The elements whose name occurs earlier, each with the first of that name. Those of `before` come
before the list. -/
def repeats (name : ε → String) (before : List ε) : List ε → List (ε × ε)
  | [] => []
  | d :: ds =>
    ((before.find? fun e => name e = name d).map fun first => (d, first)).toList ++
      repeats name (before ++ [d]) ds

theorem repeats_append (name : ε → String) (before ds ds' : List ε) :
    repeats name before (ds ++ ds') =
      repeats name before ds ++ repeats name (before ++ ds) ds' := by
  induction ds generalizing before with
  | nil => simp [repeats]
  | cons d ds ih => simp [repeats, ih, List.append_assoc]

namespace DeclFamily

variable {δ ε : Type} (f : DeclFamily δ ε)

/-- The report that the declaration `d` repeats the name of `first`. -/
def repeatReport (package : QualifiedName) (severity : Severity) (d first : Script × ε) :
    Diagnostic where
  file := d.1.file
  range := (f.name d.2).range
  severity
  code := some "E0005"
  message := f.kind.text ++ " " ++ (f.name d.2).text ++ " was already declared in package " ++
    package.text
  related := [⟨(f.place first).location, "first declared here"⟩]

/-- One report for each repeat, unless repeats are allowed. -/
def repeatReports (config : Config) (package : QualifiedName) (before decls : List (Script × ε)) :
    List Diagnostic :=
  match config.duplicates.severity? with
  | none => []
  | some severity =>
    (repeats f.key before decls).map fun (d, first) => f.repeatReport package severity d first

/-- What is reported of the members of a script's declarations, whether these stand or not. -/
def ownReports (config : Config) (types : TypeIndex) (script : Script) : List Diagnostic :=
  (f.declared script).flatMap fun decl => (f.define (.ofScript config types script) decl).2

/-- A table holds what the policy lets stand: all names in the order in which they were first
declared, and under each of them the definition of its first or its last declaration. -/
structure Records (config : Config) (types : TypeIndex) (scripts : List Script)
    (table : OrderedMap String δ) : Prop where
  names : table.keys = ((f.met scripts).map f.key).eraseDups
  stored : ∀ key, table.get? key =
    (config.duplicates.standing ((f.met scripts).filter fun d => f.key d = key)).map
      (f.definition config types)

end DeclFamily

/-! ## One step: a declaration -/

theorem Diagnostic.code_ofError (file : FileId) (range : Range) (severity : Severity)
    (error : SemanticError) (related : List Related) :
    (Diagnostic.ofError file range severity error related).code = some error.code := rfl

/-- A look-up is not reported as a repeated declaration. -/
theorem Lookup.code_ne_of_report? [Matched α] {l : Lookup α} {config : Config} {file : FileId}
    {kind : ReferenceKind} {name : String} {range : Range} {d : Diagnostic}
    (h : l.report? config file kind name range = some d) : d.code ≠ some "E0005" := by
  have herror := Lookup.isLookupError_of_report? h
  intro hcode
  simp [Diagnostic.isLookupError, hcode] at herror

theorem IndexScope.code_ne_of_mem_memberType {s : IndexScope} (member : String) (type : TypeRef) :
    ∀ d ∈ (s.memberType member type).2, d.code ≠ some "E0005" :=
  fun _ hd => Lookup.code_ne_of_report? (Option.mem_toList.1 hd)

theorem DeclFamily.code_ne_structs (s : IndexScope) (decl : StructDecl) :
    ∀ d ∈ (DeclFamily.structs.define s decl).2, d.code ≠ some "E0005" :=
  IndexScope.forall_mem_structDef (fun _ _ _ => IndexScope.code_ne_of_mem_memberType _ _)
    (fun _ _ _ _ => by simp [IndexScope.duplicateMember, Diagnostic.code_ofError, SemanticError.code])

theorem DeclFamily.code_ne_funcs (s : IndexScope) (decl : FuncDecl) :
    ∀ d ∈ (DeclFamily.funcs.define s decl).2, d.code ≠ some "E0005" :=
  IndexScope.forall_mem_funcDef (fun _ _ _ => IndexScope.code_ne_of_mem_memberType _ _)
    (fun _ _ _ _ => by simp [IndexScope.duplicateMember, Diagnostic.code_ofError, SemanticError.code])

namespace DeclFamily

variable {δ ε : Type} (f : DeclFamily δ ε) {config : Config} {types : TypeIndex}

/-- A repeat is reported with the first declaration of its name. -/
theorem duplicateDecl?_eq (types : TypeIndex) (package : QualifiedName) (before : List (Script × ε))
    (script : Script) (decl : ε) :
    ((IndexScope.ofScript config types script).duplicateDecl? f.kind package (f.name decl)
      (((OrderedMap.empty.declareAll config.duplicates f.key (f.definition config types)
        before).get? (f.name decl).text).map f.target)).toList =
      f.repeatReports config package before [(script, decl)] := by
  rw [OrderedMap.get?_declareAll]
  unfold repeatReports
  cases hs : config.duplicates.severity? with
  | none => simp [IndexScope.duplicateDecl?, IndexScope.ofScript, hs]
  | some severity =>
    have hkey : f.key (script, decl) = (f.name decl).text := rfl
    rw [DuplicatePolicy.standing_eq_head? hs, List.head?_filter]
    simp only [repeats, hkey, List.append_nil]
    cases before.find? fun e => f.key e = (f.name decl).text with
    | none => rfl
    | some first =>
      simp only [IndexScope.duplicateDecl?, IndexScope.ofScript, hs, Option.map_some,
        Option.bind_eq_bind, Option.bind_some, Option.toList_some, List.map_cons, List.map_nil,
        f.target_definition]
      rfl

theorem repeatReports_append (package : QualifiedName) (before ds ds' : List (Script × ε)) :
    f.repeatReports config package before (ds ++ ds') =
      f.repeatReports config package before ds ++
        f.repeatReports config package (before ++ ds) ds' := by
  unfold repeatReports
  split
  · rfl
  · rw [repeats_append, List.map_append]

theorem repeatReports_nil (package : QualifiedName) (before : List (Script × ε)) :
    f.repeatReports config package before [] = [] := by
  unfold repeatReports
  split <;> rfl

theorem code_of_mem_repeatReports (config : Config) (package : QualifiedName)
    (before ds : List (Script × ε)) :
    ∀ d ∈ f.repeatReports config package before ds, d.code = some "E0005" := by
  intro d hd
  unfold repeatReports at hd
  split at hd
  · cases hd
  · obtain ⟨p, -, rfl⟩ := List.mem_map.1 hd
    rfl

/-- What is reported of the declarations of a script, after those `before`. -/
def addReports (config : Config) (types : TypeIndex) (package : QualifiedName)
    (before : List (Script × ε)) (script : Script) (decls : List ε) : List Diagnostic :=
  ((IndexScope.ofScript config types script).addDecls f.kind package f.name
    (f.define (.ofScript config types script)) f.target
    (OrderedMap.empty.declareAll config.duplicates f.key (f.definition config types) before)
    decls).2

theorem addReports_cons (package : QualifiedName) (before : List (Script × ε)) (script : Script)
    (decl : ε) (decls : List ε) :
    f.addReports config types package before script (decl :: decls) =
      (f.define (.ofScript config types script) decl).2 ++
        f.repeatReports config package before [(script, decl)] ++
        f.addReports config types package (before ++ [(script, decl)]) script decls := by
  unfold addReports
  rw [OrderedMap.declareAll_append, ← f.duplicateDecl?_eq types]
  rfl

/-- The reports of a script are those of its repeats and those of its members. -/
theorem filter_addReports (config : Config) (types : TypeIndex)
    (hown : ∀ scope decl, ∀ d ∈ (f.define scope decl).2, d.code ≠ some "E0005")
    (package : QualifiedName) (before : List (Script × ε)) (script : Script) (decls : List ε) :
    (f.addReports config types package before script decls).filter (·.code = some "E0005") =
        f.repeatReports config package before (decls.map (script, ·)) ∧
      (f.addReports config types package before script decls).filter (·.code ≠ some "E0005") =
        decls.flatMap fun decl => (f.define (.ofScript config types script) decl).2 := by
  induction decls generalizing before with
  | nil => exact ⟨(f.repeatReports_nil package before).symm, rfl⟩
  | cons decl decls ih =>
    obtain ⟨hrepeats, hothers⟩ := ih (before ++ [(script, decl)])
    have hmembers := hown (.ofScript config types script) decl
    have hrepeat := f.code_of_mem_repeatReports config package before [(script, decl)]
    rw [addReports_cons, List.filter_append, List.filter_append, List.filter_append,
      List.filter_append, hrepeats, hothers]
    constructor
    · rw [List.filter_eq_nil_iff.2 fun d hd => by simpa using hmembers d hd,
        List.filter_eq_self.2 fun d hd => by simpa using hrepeat d hd, List.nil_append,
        ← repeatReports_append]
      rfl
    · rw [List.filter_eq_self.2 fun d hd => by simpa using hmembers d hd,
        List.filter_eq_nil_iff.2 fun d hd => by simpa using hrepeat d hd, List.append_nil]
      rfl

end DeclFamily

/-! ## One step: a script -/

namespace PackageIndex

variable {config : Config} {types : TypeIndex} {package : QualifiedName}

/-- The index of a package whose scripts are those of `before`. -/
structure Made (config : Config) (types : TypeIndex) (package : QualifiedName)
    (before : List Script) (index : PackageIndex) : Prop where
  package_eq : index.package = package
  structs_eq : index.structs = DeclFamily.structs.tableOf config types before
  funcs_eq : index.funcs = DeclFamily.funcs.tableOf config types before

/-- What the scripts of `run` add to the reports, when they follow those of `before`. -/
structure Reported (config : Config) (types : TypeIndex) (package : QualifiedName)
    (before run : List Script) (reports : List Diagnostic) : Prop where
  repeated : (reports.filter (·.code = some "E0005")).Perm
    (DeclFamily.structs.repeatReports config package (DeclFamily.structs.met before)
        (DeclFamily.structs.met run) ++
      DeclFamily.funcs.repeatReports config package (DeclFamily.funcs.met before)
        (DeclFamily.funcs.met run))
  others : reports.filter (·.code ≠ some "E0005") = run.flatMap fun script =>
    DeclFamily.structs.ownReports config types script ++
      DeclFamily.funcs.ownReports config types script

theorem Made.add {index : PackageIndex} {before : List Script}
    (h : index.Made config types package before) (script : Script) :
    (index.add config types script).1.Made config types package (before ++ [script]) ∧
      Reported config types package before [script] (index.add config types script).2 := by
  refine ⟨⟨h.package_eq, DeclFamily.structs.table_add_eq config types script h.structs_eq,
    DeclFamily.funcs.table_add_eq config types script h.funcs_eq⟩, ?_⟩
  have hreports : (index.add config types script).2 =
      DeclFamily.structs.addReports config types package (DeclFamily.structs.met before) script
          script.structs ++
        DeclFamily.funcs.addReports config types package (DeclFamily.funcs.met before) script
          script.funcs := by
    simp only [PackageIndex.add, IndexScope.addStructs_eq, IndexScope.addFuncs_eq, h.package_eq,
      h.structs_eq, h.funcs_eq]
    rfl
  obtain ⟨hstructs, hstructs'⟩ := DeclFamily.structs.filter_addReports config types
    DeclFamily.code_ne_structs package (DeclFamily.structs.met before) script script.structs
  obtain ⟨hfuncs, hfuncs'⟩ := DeclFamily.funcs.filter_addReports config types
    DeclFamily.code_ne_funcs package (DeclFamily.funcs.met before) script script.funcs
  constructor
  · rw [hreports, List.filter_append, hstructs, hfuncs]
    unfold DeclFamily.met
    rw [List.flatMap_singleton, List.flatMap_singleton]
    exact .rfl
  · rw [hreports, List.filter_append, hstructs', hfuncs', List.flatMap_singleton]
    rfl

/-! ## A run -/

theorem Reported.nil (before : List Script) : Reported config types package before [] [] :=
  ⟨by simp [DeclFamily.met, DeclFamily.repeatReports_nil], rfl⟩

theorem Reported.append {before run run' : List Script} {reports reports' : List Diagnostic}
    (h : Reported config types package before run reports)
    (h' : Reported config types package (before ++ run) run' reports') :
    Reported config types package before (run ++ run') (reports ++ reports') := by
  constructor
  · rw [List.filter_append]
    simp only [DeclFamily.met_append, DeclFamily.repeatReports_append]
    have hboth := h.repeated.append h'.repeated
    simp only [DeclFamily.met_append] at hboth
    refine hboth.trans ?_
    simp only [List.append_assoc]
    exact (List.perm_append_comm_assoc _ _ _).append_left _
  · rw [List.filter_append, h.others, h'.others, List.flatMap_append]

theorem Made.addAll? {index : PackageIndex} {before : List Script}
    (h : index.Made config types package before) {scripts : List Script}
    (hscripts : ∀ script ∈ scripts, script.package = package) :
    ∃ index' reports, index.addAll? config types scripts = some (index', reports) ∧
      index'.Made config types package (before ++ scripts) ∧
      Reported config types package before scripts reports := by
  induction scripts generalizing index before with
  | nil => exact ⟨index, [], rfl, by rwa [List.append_nil], .nil before⟩
  | cons script scripts ih =>
    obtain ⟨hmade, hreported⟩ := h.add script
    obtain ⟨index', reports, hrun, hmade', hreported'⟩ :=
      ih hmade fun s hs => hscripts s (List.mem_cons_of_mem _ hs)
    have hadd : index.add? config types script = some (index.add config types script) :=
      if_pos ((hscripts script List.mem_cons_self).trans h.package_eq.symm)
    refine ⟨index', (index.add config types script).2 ++ reports, ?_, ?_,
      hreported.append hreported'⟩
    · simp only [PackageIndex.addAll?, hadd, Option.bind_eq_bind, Option.bind_some, hrun]
    · rwa [List.append_assoc] at hmade'

end PackageIndex

theorem DeclFamily.records_tableOf {δ ε : Type} (f : DeclFamily δ ε) (config : Config)
    (types : TypeIndex) (scripts : List Script) :
    f.Records config types scripts (f.tableOf config types scripts) :=
  ⟨f.keys_tableOf config types scripts, f.get?_tableOf config types scripts⟩

/-- **Runs keep to the policy for duplicates.** A run over scripts of one package succeeds. It
leaves under each name the declaration that the policy lets stand, reports each repeat of a name
once with the first declaration of that name, and reports all that is wrong within any
declaration. -/
theorem runs_keep_to_the_policy (config : Config) (types : TypeIndex) (package : QualifiedName)
    {scripts : List Script} (h : ∀ script ∈ scripts, script.package = package) :
    ∃ index reports,
      (PackageIndex.empty package).addAll? config types scripts = some (index, reports) ∧
      DeclFamily.structs.Records config types scripts index.structs ∧
      DeclFamily.funcs.Records config types scripts index.funcs ∧
      PackageIndex.Reported config types package [] scripts reports := by
  have hempty : (PackageIndex.empty package).Made config types package [] := ⟨rfl, rfl, rfl⟩
  obtain ⟨index, reports, hrun, hmade, hreported⟩ := hempty.addAll? h
  refine ⟨index, reports, hrun, ?_, ?_, hreported⟩
  · rw [hmade.structs_eq]
    exact DeclFamily.structs.records_tableOf config types scripts
  · rw [hmade.funcs_eq]
    exact DeclFamily.funcs.records_tableOf config types scripts

/-- Structs in a script of the package `util`. -/
def utilScript (file : FileId) (structs : List StructDecl) : Script :=
  { file, package := ⟨["util"]⟩, structs }

/-- A `Point` with two fields `x`, the first of them of a struct that there is not. -/
def brokenPoint : StructDecl where
  name := { text := "Point" }
  fields := [
    { name := { text := "x" }, type := .named { name := ⟨["Vec"]⟩ } },
    { name := { text := "x" }, type := .primitive .int {} }]

/-- `Point` is declared three times: twice in one script, and again in the next. Both repeats are
reported with the first of the three. The second one is dropped, but both problems inside it are
reported too. -/
theorem point_is_repeated_twice :
    let point : StructDecl := { name := { text := "Point" } }
    let grid : StructDecl := { name := { text := "Grid" } }
    let scripts := [utilScript ⟨0⟩ [point, brokenPoint], utilScript ⟨1⟩ [grid, point]]
    (∀ script ∈ scripts, script.package = ⟨["util"]⟩) ∧
    ∃ index reports,
      (PackageIndex.empty ⟨["util"]⟩).addAll? {} .empty scripts = some (index, reports) ∧
      index.structs.keys = ["Point", "Grid"] ∧
      ((index.structs.get? "Point").map fun d => (d.location.file, d.fields.keys)) =
        some (⟨0⟩, []) ∧
      (((reports.filter (·.code = some "E0005")).map fun d =>
        (d.file, d.related.map (·.location.file))).Perm [(⟨0⟩, [⟨0⟩]), (⟨1⟩, [⟨0⟩])]) ∧
      (reports.filter (·.code ≠ some "E0005")).map (fun d => (d.file, d.code)) =
        [(⟨0⟩, some "E0001"), (⟨0⟩, some "E0004")] := by
  intro point grid scripts
  have h : ∀ script ∈ scripts, script.package = ⟨["util"]⟩ := by decide
  obtain ⟨index, reports, hrun, hstructs, -, hreported⟩ :=
    runs_keep_to_the_policy {} .empty ⟨["util"]⟩ h
  refine ⟨h, index, reports, hrun, ?_, ?_, hreported.repeated.map _, ?_⟩
  · rw [hstructs.names]
    decide
  · rw [hstructs.stored]
    decide
  · rw [hreported.others]
    decide

end NameScope

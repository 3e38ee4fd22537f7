import BlockScope.Proofs.Finding

/-!
When a check fails. Nothing in a document makes a check fail: the keys of a document are scanned in
document order, at coordinates that it has, and every span that a rule takes is part of a line. A
check therefore fails only on what the caller gives it, before the first rule runs. That is the case
if the services are given twice or if the rules are not acceptable together, and whether rules are
acceptable does not depend on their order.
-/

set_option autoImplicit false
set_option relaxedAutoImplicit false

namespace BlockScope

/-! ### Rules that are accepted -/

namespace Rule

/-- Rules that may be used together: each of them is in the one domain and has a code with the
common mark, and no two of them have the same name. -/
structure Acceptable (rules : List Rule) : Prop where
  domain : ∀ rule ∈ rules, rule.domain = soleDomain
  code : ∀ rule ∈ rules, codeMark.toList <+: rule.code.toList
  names : (rules.map (·.name)).Nodup

theorem hasCodeMark_iff {rule : Rule} :
    rule.hasCodeMark = true ↔ codeMark.toList <+: rule.code.toList :=
  List.isPrefixOf_iff_prefix

theorem acceptable_nil : Acceptable [] :=
  ⟨fun _ hrule ↦ absurd hrule List.not_mem_nil, fun _ hrule ↦ absurd hrule List.not_mem_nil,
    List.nodup_nil⟩

theorem acceptable_cons_iff {rule : Rule} {rest : List Rule} :
    Acceptable (rule :: rest) ↔ rule.domain = soleDomain ∧
      codeMark.toList <+: rule.code.toList ∧ (∀ other ∈ rest, other.name ≠ rule.name) ∧
      Acceptable rest := by
  have hnames : ((rule :: rest).map (·.name)).Nodup ↔
      (∀ other ∈ rest, other.name ≠ rule.name) ∧ (rest.map (·.name)).Nodup := by
    rw [List.map_cons, List.nodup_cons, List.mem_map, not_exists]
    simp only [not_and, ne_eq]
  constructor
  · rintro ⟨hdomain, hcode, hall⟩
    obtain ⟨hfirst, hrest⟩ := List.forall_mem_cons.mp hdomain
    obtain ⟨hmark, hmarks⟩ := List.forall_mem_cons.mp hcode
    obtain ⟨hother, hlater⟩ := hnames.mp hall
    exact ⟨hfirst, hmark, hother, hrest, hmarks, hlater⟩
  · rintro ⟨hfirst, hmark, hother, hrest, hmarks, hlater⟩
    exact ⟨List.forall_mem_cons.mpr ⟨hfirst, hrest⟩, List.forall_mem_cons.mpr ⟨hmark, hmarks⟩,
      hnames.mpr ⟨hother, hlater⟩⟩

theorem Acceptable.perm {rules rules' : List Rule} (hrules : Acceptable rules)
    (hperm : rules.Perm rules') : Acceptable rules' where
  domain rule hrule := hrules.domain rule (hperm.mem_iff.mpr hrule)
  code rule hrule := hrules.code rule (hperm.mem_iff.mpr hrule)
  names := (hperm.map (·.name)).nodup_iff.mp hrules.names

/-- One rule is accepted behind others, and the rest is then accepted behind it as well. -/
theorem validateAfter_cons_eq_ok_iff {seen : List String} {rule : Rule} {rest : List Rule} :
    validateAfter seen (rule :: rest) = .ok () ↔ rule.domain = soleDomain ∧
      codeMark.toList <+: rule.code.toList ∧ rule.name ∉ seen ∧
      validateAfter (rule.name :: seen) rest = .ok () := by
  rw [validateAfter, ← hasCodeMark_iff]
  by_cases hdomain : rule.domain = soleDomain
  · by_cases hcode : rule.hasCodeMark = true
    · by_cases hname : rule.name ∈ seen <;> simp [hdomain, hcode, hname]
    · simp [hdomain, hcode]
  · simp [hdomain]

theorem validateAfter_eq_ok_iff (rules : List Rule) :
    ∀ seen : List String, validateAfter seen rules = .ok () ↔
      Acceptable rules ∧ ∀ rule ∈ rules, rule.name ∉ seen := by
  induction rules with
  | nil =>
    intro seen
    exact iff_of_true rfl ⟨acceptable_nil, fun _ hrule ↦ absurd hrule List.not_mem_nil⟩
  | cons rule rest ih =>
    intro seen
    have hseen : (∀ other ∈ rest, other.name ∉ rule.name :: seen) ↔
        (∀ other ∈ rest, other.name ≠ rule.name) ∧ ∀ other ∈ rest, other.name ∉ seen := by
      simp only [List.mem_cons, not_or, imp_and, forall_and, ne_eq]
    rw [validateAfter_cons_eq_ok_iff, ih, hseen, acceptable_cons_iff, List.forall_mem_cons]
    tauto

theorem validate_eq_ok_iff {rules : List Rule} : validate rules = .ok () ↔ Acceptable rules := by
  rw [validate, validateAfter_eq_ok_iff]
  exact and_iff_left fun _ _ ↦ List.not_mem_nil

end Rule

/-! ### What a check refuses -/

/-- What a caller may give to a check so that it is refused: services and a path at once, a rule
outside the one domain, a rule whose code lacks the mark, or a rule with the name of an earlier
one. -/
inductive Refused (services : Option Services) (path : Option String) (rules : List Rule) : Prop
  | servicesGivenTwice (hservices : services.isSome = true) (hpath : path.isSome = true)
  | domain (rule : Rule) (hrule : rule ∈ rules) (hdomain : rule.domain ≠ "correctness")
  | code (rule : Rule) (hrule : rule ∈ rules) (hcode : ¬ "TYPECHECK_".toList <+: rule.code.toList)
  | name (earlier later : Nat) (first second : Rule) (hbefore : earlier < later)
    (hfirst : rules[earlier]? = some first) (hsecond : rules[later]? = some second)
    (hname : second.name = first.name)

section Refused

variable {services : Option Services} {path : Option String} {rules : List Rule}

theorem exists_chooseServices_iff :
    (∃ chosen, chooseServices services path = .ok chosen) ↔
      ¬ (services.isSome = true ∧ path.isSome = true) := by
  cases services <;> cases path <;> simp [chooseServices]

theorem nodup_names_iff :
    (rules.map (·.name)).Nodup ↔ ∀ (earlier later : Nat) (first second : Rule), earlier < later →
      rules[earlier]? = some first → rules[later]? = some second → second.name ≠ first.name := by
  rw [List.Nodup, List.pairwise_map, List.pairwise_iff_getElem]
  constructor
  · intro hdistinct earlier later first second hbefore hfirst hsecond hname
    obtain ⟨hearlier, rfl⟩ := List.getElem?_eq_some_iff.mp hfirst
    obtain ⟨hlater, rfl⟩ := List.getElem?_eq_some_iff.mp hsecond
    exact hdistinct earlier later hearlier hlater hbefore hname.symm
  · intro hdistinct earlier later hearlier hlater hbefore hname
    exact hdistinct earlier later _ _ hbefore (List.getElem?_eq_getElem hearlier)
      (List.getElem?_eq_getElem hlater) hname.symm

theorem not_refused_iff :
    ¬ Refused services path rules ↔
      (∃ chosen, chooseServices services path = .ok chosen) ∧ Rule.Acceptable rules := by
  rw [exists_chooseServices_iff]
  constructor
  · intro hadmitted
    refine ⟨fun hboth ↦ hadmitted (.servicesGivenTwice hboth.1 hboth.2), ?_, ?_, ?_⟩
    · intro rule hrule
      by_contra hdomain
      exact hadmitted (.domain rule hrule hdomain)
    · intro rule hrule
      by_contra hcode
      exact hadmitted (.code rule hrule hcode)
    · refine nodup_names_iff.mpr fun earlier later first second hbefore hfirst hsecond hname ↦ ?_
      exact hadmitted (.name earlier later first second hbefore hfirst hsecond hname)
  · rintro ⟨hservices, hrules⟩ hrefused
    cases hrefused with
    | servicesGivenTwice hgiven hpath => exact hservices ⟨hgiven, hpath⟩
    | domain rule hrule hdomain => exact hdomain (hrules.domain rule hrule)
    | code rule hrule hcode => exact hcode (hrules.code rule hrule)
    | name earlier later first second hbefore hfirst hsecond hname =>
      exact nodup_names_iff.mp hrules.names earlier later first second hbefore hfirst hsecond hname

theorem exists_checkDocument_iff_not_refused (document : Document) (services : Option Services)
    (path : Option String) (rules : List Rule) :
    (∃ report, checkDocument document services path rules = .ok report) ↔
      ¬ Refused services path rules := by
  rw [exists_checkDocument_iff, not_refused_iff, Rule.validate_eq_ok_iff]

theorem exists_error_iff_refused (document : Document) (services : Option Services)
    (path : Option String) (rules : List Rule) :
    (∃ error, checkDocument document services path rules = .error error) ↔
      Refused services path rules := by
  rw [← not_iff_not, ← exists_checkDocument_iff_not_refused document]
  cases checkDocument document services path rules <;> simp

/-- A check that fails has not come to its rules. -/
theorem eq_of_checkDocument_eq_error {document : Document} {error : CheckError}
    (herror : checkDocument document services path rules = .error error) :
    error = .servicesGivenTwice ∨ ∃ fault, error = .rule fault := by
  cases hservices : chooseServices services path with
  | error refusal =>
    rw [checkDocument, hservices] at herror
    obtain rfl : refusal = error := Except.error.inj herror
    cases services <;> cases path <;> simp_all [chooseServices]
  | ok chosen =>
    cases hrules : Rule.validate rules with
    | error fault =>
      rw [checkDocument, hservices, hrules] at herror
      exact .inr ⟨fault, (Except.error.inj herror).symm⟩
    | ok =>
      obtain ⟨report, hreport, -⟩ := exists_checkDocument_eq document hservices hrules
      rw [hreport] at herror
      contradiction

/-- Assumes: the same rules in another order. They are refused as well. -/
theorem Refused.perm {rules' : List Rule} (hrefused : Refused services path rules)
    (hperm : rules.Perm rules') : Refused services path rules' := by
  by_contra hadmitted
  obtain ⟨hservices, hrules⟩ := not_refused_iff.mp hadmitted
  exact not_refused_iff.mpr ⟨hservices, hrules.perm hperm.symm⟩ hrefused

end Refused

/-- A check fails exactly if it is refused, and returns a report in every other case. In particular
it never fails on a scan or on a place: the scans of a check are accepted, and so are the
coordinates, the spans and the offsets, because no offset of a position is reckoned as negative. -/
theorem checkDocument_fails_iff_refused (document : Document) (services : Option Services)
    (path : Option String) (rules : List Rule) :
    ((∃ error, checkDocument document services path rules = .error error) ↔
        Refused services path rules) ∧
      ((∃ report, checkDocument document services path rules = .ok report) ↔
        ¬ Refused services path rules) ∧
      (∀ error, checkDocument document services path rules ≠ .error (.scan error)) ∧
      (∀ error, checkDocument document services path rules ≠ .error (.place error)) ∧
      ∀ position, offsetOf (document.lineMap.reckonedOffset position) =
        .ok (document.lineMap.offsetAt position) := by
  refine ⟨exists_error_iff_refused document services path rules,
    exists_checkDocument_iff_not_refused document services path rules, ?_, ?_,
    document.offsetOf_reckonedOffset⟩
  · intro error herror
    rcases eq_of_checkDocument_eq_error herror with hgiven | ⟨fault, hfault⟩ <;> contradiction
  · intro error herror
    rcases eq_of_checkDocument_eq_error herror with hgiven | ⟨fault, hfault⟩ <;> contradiction

end BlockScope

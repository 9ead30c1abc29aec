import FieldRules.Proofs.Compiler.Compiles
import FieldRules.Proofs.Rule.Alike
import FieldRules.Proofs.Rule.Sites

namespace FieldRules

namespace Params

/-- The field that a date reads which is handed over as such. -/
def dateField? : Params → Option String
  | date (.field field) => some field
  | _ => Option.none

theorem dateField?_ofValue (v : Value) : (ofValue v).dateField? = Option.none := by
  cases v <;> rfl

end Params

namespace RuleSpec

/-- The fields that the dates of a specification read which are handed over as such. -/
def dateFields (spec : RuleSpec) : List String := spec.entries.filterMap (·.input.dateField?)

theorem dateFields_of_names {spec : RuleSpec} {rules : List String}
    (hentries : spec.entries = rules.map RuleEntry.ofName) : spec.dateFields = [] := by
  rw [dateFields, hentries, List.filterMap_eq_nil_iff, List.forall_mem_map]
  exact fun _ _ => rfl

theorem dateField?_of_ofConfig {rule : String} {v : Value} {entry : RuleEntry}
    (hread : RuleEntry.ofConfig rule v = .ok entry) : entry.input.dateField? = none := by
  unfold RuleEntry.ofConfig at hread
  split at hread
  · cases hread
    rfl
  · split at hread
    · cases hread
      exact Params.dateField?_ofValue _
    · split at hread
      · cases hread
      · cases hread
        exact Params.dateField?_ofValue _

/-- What is written as a value hands over no dates. -/
theorem dateFields_of_ofValue {v : Value} {spec : RuleSpec} (hread : ofValue v = .ok spec) :
    spec.dateFields = [] := by
  unfold ofValue at hread
  split at hread
  · cases hread
    exact dateFields_of_names rfl
  · obtain ⟨rules, _, rfl⟩ := map_eq_ok_iff.mp hread
    exact dateFields_of_names rfl
  · obtain ⟨entries, hentries, rfl⟩ := map_eq_ok_iff.mp hread
    rw [dateFields, List.filterMap_eq_nil_iff]
    intro entry hentry
    obtain ⟨_, _, hread⟩ := exists_of_mapM_ok hentries hentry
    exact dateField?_of_ofConfig hread
  · cases hread

theorem dateFields_of_nestedSpec {params : Params} {rule own tested : String} {spec : RuleSpec}
    (hnested : params.nestedSpec rule own = .ok (tested, some spec)) : spec.dateFields = [] := by
  unfold Params.nestedSpec at hnested
  split at hnested
  · split at hnested
    · cases hnested
    · split at hnested
      · cases hnested
      · cases hnested
        exact dateFields_of_names rfl
  · cases hnested
  · obtain ⟨read, hread, hnested⟩ := bind_eq_ok_iff.mp hnested
    split at hnested
    · cases hnested
    · cases hnested
      exact dateFields_of_ofValue hread
  · split at hnested
    · cases hnested
    · cases hnested
    · obtain ⟨read, hread, hnested⟩ := bind_eq_ok_iff.mp hnested
      cases hnested
      exact dateFields_of_ofValue hread
  · cases hnested

theorem dateFields_of_branchSpec {compiler : Compiler} {use : RuleUse} {tested : String}
    {spec : RuleSpec} (hspec : compiler.branchSpec use = .ok (tested, spec)) :
    spec.dateFields = [] := by
  simp only [Compiler.branchSpec, bind_eq_ok_iff] at hspec
  obtain ⟨_, _, ⟨field, found⟩, hnested, _, _, read, hread, hspec⟩ := hspec
  obtain rfl := RuleUse.orError_eq_ok_iff.mp hread
  split at hspec
  · cases hspec
  · cases hspec
    exact dateFields_of_nestedSpec hnested

end RuleSpec

/-- A date that is read by the name of a field is that of a declared field. -/
theorem Calendar.ExpressionReader.hasField_of_readFirst? {readers : List ExpressionReader}
    {expr name : String} {schema : Schema}
    (hread : readFirst? readers expr schema = .ok (some (.field name))) :
    schema.hasField name = true := by
  induction readers with
  | nil => cases hread
  | cons reader readers ih =>
    rw [readFirst?] at hread
    split at hread
    · cases hread
    · next found hfound =>
      cases hread
      cases reader with
      | literal =>
        obtain ⟨_, _, htime⟩ := Option.map_eq_some_iff.mp (Except.ok.inj hfound)
        cases htime
      | field =>
        have hfound := Except.ok.inj hfound
        split at hfound
        · next hfield =>
          cases hfound
          exact hfield
        · cases hfound
      | offset =>
        obtain ⟨_, _, hspan⟩ := map_eq_ok_iff.mp hfound
        obtain ⟨_, _, hspan⟩ := Option.map_eq_some_iff.mp hspan
        cases hspan
      | day keyword days =>
        have hfound := Except.ok.inj hfound
        split at hfound <;> cases hfound
      | word keyword time =>
        have hfound := Except.ok.inj hfound
        split at hfound <;> cases hfound
      | host label parse =>
        obtain ⟨_, _, hparsed⟩ := map_eq_ok_iff.mp hfound
        obtain ⟨⟨_, hwithin⟩, _, hfield⟩ := Option.map_eq_some_iff.mp hparsed
        exact hwithin name hfield
    · exact ih hread

/-- Uses of one rule with the same parameters, all of whose fields may be read, and with messages
    that may be given instead of each other. -/
structure RuleUse.Alike (like : Likeness) (scope scope' : Scope) (use use' : RuleUse) : Prop where
  schema_eq : scope'.schema = scope.schema
  readers_eq : scope'.readers = scope.readers
  rule_eq : use'.rule = use.rule
  field_eq : use'.field = use.field
  params_eq : use'.params = use.params
  reads : ∀ {field}, scope.schema.hasField field = true → like.reads field
  dates : ∀ {field}, use.params.dateField? = some field → like.reads field
  wording : ∀ default (extra : Aliases → List (String × Value)),
    like.wordings (use.wording scope default (extra scope.aliases))
      (use'.wording scope' default (extra scope'.aliases))
  sizeWording : ∀ default extra,
    like.sizeWordings (use.sizeWording scope default extra) (use'.sizeWording scope' default extra)

namespace CheckShape

open RuleUse

theorem reads_of_readDate {like : Likeness} {scope : Scope} {use : RuleUse}
    {expression : Calendar.Expression}
    (hreads : ∀ {field}, scope.schema.hasField field = true → like.reads field)
    (hdates : ∀ {field}, use.params.dateField? = some field → like.reads field)
    (hread : readDate scope use = .ok expression) :
    ∀ field, expression = .field field → like.reads field := by
  rintro field rfl
  unfold readDate at hread
  split at hread
  · obtain ⟨found, hfound, hread⟩ := bind_eq_ok_iff.mp hread
    obtain rfl := orError_eq_ok_iff.mp hread
    exact hreads (Calendar.ExpressionReader.hasField_of_readFirst? hfound)
  · next heq =>
    cases hread
    exact hdates (congrArg Params.dateField? heq)
  · next v _ =>
    have hread := orError_eq_ok_iff.mp hread
    cases htime : v.time? with
    | none =>
      rw [htime] at hread
      cases hread
    | some time =>
      rw [htime] at hread
      cases hread
  · cases hread

theorem alike_compile {like : Likeness} {scope scope' : Scope} {use use' : RuleUse}
    (halike : use.Alike like scope scope' use') (shape : CheckShape) :
    ExceptRel (Check.Alike like) (shape.compile scope use) (shape.compile scope' use') := by
  obtain ⟨_, aliases, _⟩ := scope
  obtain ⟨schema, aliases', readers⟩ := scope'
  obtain ⟨_, _, _, message⟩ := use
  obtain ⟨rule, field, params, message'⟩ := use'
  obtain ⟨rfl, rfl, rfl, rfl, rfl, hreads, hdates, hwording, hsize⟩ := halike
  cases shape with
  | predicate default find =>
    exact .bind_same fun _ _ => .ok (.predicate find (hwording default fun _ => []))
  | pattern default p =>
    exact .bind_same fun _ _ => .ok (.pattern p (hwording default fun _ => []))
  | givenPattern =>
    exact .bind_same fun p _ => .ok (.pattern p (hwording _ fun _ => []))
  | size messages isInvalid =>
    exact .bind_same fun bound _ => .ok (.sized _ (hsize _ _))
  | range messages isInvalid =>
    exact .bind_same fun bound _ => .ok (.sized _ (hsize _ _))
  | transform t => exact .bind_same fun _ _ => .ok (.transform t _)
  | remainder => exact .bind_same fun divisor _ => .ok (.transform _ _)
  | upper => exact .bind_same fun _ _ => .ok .upper
  | siblings default check =>
    refine .bind_same fun _ _ => .bind_same fun fields _ => .bind_same fun _ hfields => .ok ?_
    refine .siblings check (fun field hfield => hreads ?_) (hwording default fun aliases =>
      [("$fields", .string (joinFriendly "and" fields)),
        ("$fieldAliases", .string (joinFriendly "and" (fields.map aliases.get)))])
    exact requireField_eq_ok_iff.mp (forM_eq_ok_iff.mp hfields field hfield)
  | trigger default requiredWhenListed =>
    refine .bind_same fun _ _ => .bind_same fun (field, values) _ => .bind_same fun _ hfield =>
      .ok ?_
    refine .trigger _ requiredWhenListed (hreads (requireField_eq_ok_iff.mp hfield))
      (hwording default fun aliases => ("$params", params.display) ::
        matchSlots ⟨schema, aliases, readers⟩ field ++
        [("$list", .string (joinFriendly "and" (values.map Value.display)))])
  | foreign default failOnMatch =>
    refine .bind_same fun (model, matchField, members) _ => .bind_same fun _ hfield =>
      .bind_same fun source _ => .ok ?_
    exact .foreign _ source failOnMatch (hreads (requireField_eq_ok_iff.mp hfield))
      (hwording default fun aliases => ("$class", .string (model.getD schema.name)) ::
        matchSlots ⟨schema, aliases, readers⟩ (matchField.getD field))
  | itemMatch default failOnMatch =>
    refine .bind_same fun _ _ => .bind_same fun (itemField, expected, equal) _ =>
      .bind_same fun _ _ => .ok ?_
    exact .itemMatch itemField expected equal failOnMatch (hwording default fun aliases =>
      matchSlots ⟨schema, aliases, readers⟩ itemField ++ [("$matchValue", expected)])
  | membership default failWhenListed =>
    refine .bind_same fun _ _ => ?_
    dsimp only
    split
    · exact .error _
    · exact .ok (.membership _ failWhenListed (hwording default fun _ => _))
  | date default isInvalid =>
    refine .bind_same fun _ _ => .bind_same fun expression hexpression => .ok (.date _ ?_ ?_)
    · exact reads_of_readDate hreads hdates hexpression
    · exact hwording default fun _ => _
  | host compile =>
    exact .bind_same fun check _ => .ok (.predicate check.find
      (hwording check.message fun _ => check.extra))

end CheckShape

/-- Entries that differ at most in messages: in their own ones, and in those of the entries nested
    in them. `own` says which messages may stand instead of each other. -/
inductive RuleEntry.Reworded (registry : Registry) (own : Option Message → Option Message → Prop) :
    RuleEntry → RuleEntry → Prop
  | same (rule : String) (input : Params) {message message' : Option Message}
    (hmessage : own message message') :
    Reworded registry own ⟨rule, message, input⟩ ⟨rule, message', input⟩
  | nested (rule : String) {gate : Branch} {message message' : Option Message}
    {members members' : List (String × Value)} {rules rules' : Value} {spec spec' : RuleSpec}
    (hgate : registry.find? (Compiler.splitRule rule).1 = some (.branch gate))
    (hmessage : own message message')
    (hfield : members.lookup "field" = members'.lookup "field")
    (hrules : members.lookup "rules" = some rules) (hrules' : members'.lookup "rules" = some rules')
    (hread : RuleSpec.ofValue rules = .ok spec) (hread' : RuleSpec.ofValue rules' = .ok spec')
    (hnested : List.Forall₂ (Reworded registry own) spec.entries spec'.entries) :
    Reworded registry own ⟨rule, message, .value (.object members)⟩
      ⟨rule, message', .value (.object members')⟩

/-- Compilers with the same rules and the same fields, all of which may be read. What they word may
    stand for each other where `own` relates the messages of entries and `outer` those of fields. -/
structure Compiler.Alike (like : Likeness) (own outer : Option Message → Option Message → Prop)
    (compiler compiler' : Compiler) : Prop where
  registry_eq : compiler'.registry = compiler.registry
  schema_eq : compiler'.schema = compiler.schema
  reads : ∀ {field}, compiler.schema.hasField field = true → like.reads field
  own_refl : ∀ message, own message message
  outer_none : outer none none
  wording : ∀ {message message' given given'}, own message message' → outer given given' →
    ∀ rule field params default (extra : Aliases → List (String × Value)),
      like.wordings
        (RuleUse.wording ⟨rule, field, params, message.or given⟩ compiler.scope default
          (extra compiler.aliases))
        (RuleUse.wording ⟨rule, field, params, message'.or given'⟩ compiler'.scope default
          (extra compiler'.aliases))
  sizeWording : ∀ {message message' given given'}, own message message' → outer given given' →
    ∀ rule field params default extra,
      like.sizeWordings
        (RuleUse.sizeWording ⟨rule, field, params, message.or given⟩ compiler.scope default extra)
        (RuleUse.sizeWording ⟨rule, field, params, message'.or given'⟩ compiler'.scope default
          extra)

namespace RuleEntry.Reworded

variable {registry : Registry} {own : Option Message → Option Message → Prop}
  {entry entry' : RuleEntry}

theorem rule_eq (hentry : entry.Reworded registry own entry') : entry'.rule = entry.rule := by
  cases hentry <;> rfl

theorem message (hentry : entry.Reworded registry own entry') :
    own entry.message entry'.message := by
  cases hentry <;> assumption

/-- Only the parameters of branches hold messages. -/
theorem entryParams_eq (hentry : entry.Reworded registry own entry') {shape : CheckShape}
    (hshape : registry.find? (Compiler.splitRule entry.rule).1 = some (.check shape)) :
    Compiler.entryParams entry' = Compiler.entryParams entry := by
  cases hentry with
  | same => rfl
  | nested _ hgate =>
    rw [hgate] at hshape
    cases hshape

end RuleEntry.Reworded

namespace Compiler

variable {like : Likeness} {own outer : Option Message → Option Message → Prop}
  {compiler compiler' : Compiler} {entry entry' : RuleEntry} {message message' : Option Message}

theorem dateField?_entryParams {field : String}
    (hdate : (entryParams entry).dateField? = some field) :
    entry.input.dateField? = some field := by
  unfold entryParams at hdate
  split at hdate
  · cases hdate
  · exact hdate

theorem branchSpec_congr (hschema : compiler'.schema = compiler.schema)
    (hrule : entry'.rule = entry.rule) (hparams : entryParams entry' = entryParams entry)
    (field : String) :
    compiler'.branchSpec (useOf field message' entry') =
      compiler.branchSpec (useOf field message entry) := by
  unfold branchSpec
  simp only [useOf, RuleUse.requireParams, RuleUse.requireField, scope, hschema, hrule, hparams]
  rfl

theorem branchSpec_object {use : RuleUse} {members : List (String × Value)} {rules : Value}
    {spec : RuleSpec} (hparams : use.params = .value (.object members))
    (hrules : members.lookup "rules" = some rules) (hread : RuleSpec.ofValue rules = .ok spec) :
    compiler.branchSpec use =
      let tested :=
        Params.fieldOr use.field (((members.lookup "field").bind Value.string?).getD "")
      use.requireField compiler.scope tested >>= fun _ =>
        if spec.entries.isEmpty then .error (.missingRules use.rule) else .ok (tested, spec) := by
  have hnested : use.params.nestedSpec use.rule use.field =
      .ok (Params.fieldOr use.field (((members.lookup "field").bind Value.string?).getD ""),
        some spec) := by
    rw [hparams, Params.nestedSpec, Value.get?, hrules]
    cases rules with
    | null => cases hread
    | _ =>
      dsimp only
      rw [hread]
      rfl
  rw [branchSpec, hnested, RuleUse.requireParams, hparams]
  rfl

/-- Branches that differ at most in messages test the same field, and the rules in them differ at
    most in messages. -/
theorem branchSpec_reworded (halike : Alike like own outer compiler compiler')
    (hentry : entry.Reworded compiler.registry own entry') (message message' : Option Message)
    (field : String) :
    ExceptRel
      (fun branch branch' => branch.1 = branch'.1 ∧
        List.Forall₂ (RuleEntry.Reworded compiler.registry own) branch.2.entries
          branch'.2.entries)
      (compiler.branchSpec (useOf field message entry))
      (compiler'.branchSpec (useOf field message' entry')) := by
  by_cases hparams : entryParams entry' = entryParams entry
  · rw [branchSpec_congr halike.schema_eq hentry.rule_eq hparams]
    exact .same fun branch _ => ⟨rfl, List.forall₂_same.mpr fun nested _ =>
      .same nested.rule nested.input (halike.own_refl _)⟩
  cases hentry with
  | same => exact absurd rfl hparams
  | @nested rule _ _ _ members members' _ _ spec spec' hgate hmessage hfield hrules hrules' hread
      hread' hnested =>
    have hsuffix : (splitRule rule).2 = none := by
      cases hsplit : (splitRule rule).2 with
      | none => rfl
      | some suffix =>
        rw [entryParams, entryParams, hsplit] at hparams
        exact absurd rfl hparams
    have hobject : ∀ message members,
        entryParams ⟨rule, message, .value (.object members)⟩ = .value (.object members) := by
      intro message members
      rw [entryParams, hsuffix]
    have hempty : spec'.entries.isEmpty = spec.entries.isEmpty := by
      rw [Bool.eq_iff_iff, List.isEmpty_iff_length_eq_zero, List.isEmpty_iff_length_eq_zero,
        hnested.length_eq]
    rw [branchSpec_object (hobject _ _) hrules hread,
      branchSpec_object (hobject _ _) hrules' hread', ← hfield, hempty]
    simp only [RuleUse.requireField, scope, halike.schema_eq]
    refine .bind_same fun _ _ => ?_
    split
    · exact .error _
    · exact .ok ⟨rfl, hnested⟩

/-- Rules that are alike unless the record brings along some of them. -/
def AlikeIfBuiltIn (like : Likeness) (field : String) (rule rule' : Rule) : Prop :=
  (∀ site ∈ rule.sites field, customName? site.rule = none) → rule.Alike like rule'

theorem forall₂_alike {field : String} {rules rules' : List Rule}
    (hall : List.Forall₂ (AlikeIfBuiltIn like field) rules rules')
    (hcustom : ∀ site ∈ Rule.allSites field rules, customName? site.rule = none) :
    List.Forall₂ (Rule.Alike like) rules rules' :=
  forall₂_imp_of_mem hall fun rule hrule _ halike => halike fun site hsite =>
    hcustom site (Rule.mem_allSites_iff.mpr ⟨rule, hrule, hsite⟩)

theorem useOf_alike (halike : Alike like own outer compiler compiler')
    (hentry : entry.Reworded compiler.registry own entry')
    (hparams : entryParams entry' = entryParams entry)
    (hdates : ∀ field, entry.input.dateField? = some field → like.reads field)
    (hmessage : outer message message') (field : String) :
    RuleUse.Alike like compiler.scope compiler'.scope (useOf field message entry)
      (useOf field message' entry') where
  schema_eq := halike.schema_eq
  readers_eq := congrArg Registry.readers halike.registry_eq
  rule_eq := congrArg (fun rule => (splitRule rule).1) hentry.rule_eq
  field_eq := rfl
  params_eq := hparams
  reads := halike.reads
  dates hdate := hdates _ (dateField?_entryParams hdate)
  wording default extra := by
    rw [useOf, useOf, hentry.rule_eq, hparams]
    exact halike.wording hentry.message hmessage ..
  sizeWording default extra := by
    rw [useOf, useOf, hentry.rule_eq, hparams]
    exact halike.sizeWording hentry.message hmessage ..

/-- Branches compile alike if the entries in them do. -/
theorem compileEntry_branch_alike (halike : Alike like own outer compiler compiler')
    (hentry : entry.Reworded compiler.registry own entry') {gate : Branch}
    (hname : customName? (splitRule entry.rule).1 = none)
    (hgate : compiler.registry.find? (splitRule entry.rule).1 = some (.branch gate))
    (message message' : Option Message) (field : String)
    (hnested : ∀ {tested spec},
      compiler.branchSpec (useOf field message entry) = .ok (tested, spec) →
      ∀ inner ∈ spec.entries, ∀ inner', inner.Reworded compiler.registry own inner' →
        ExceptRel (AlikeIfBuiltIn like tested) (compiler.compileEntry tested none inner)
          (compiler'.compileEntry tested none inner')) :
    ExceptRel (AlikeIfBuiltIn like field) (compiler.compileEntry field message entry)
      (compiler'.compileEntry field message' entry') := by
  have hname' : customName? (splitRule entry'.rule).1 = none := by
    rw [hentry.rule_eq, hname]
  have hgate' : compiler'.registry.find? (splitRule entry'.rule).1 = some (.branch gate) := by
    rw [halike.registry_eq, hentry.rule_eq, hgate]
  have hspecs := branchSpec_reworded halike hentry message message' field
  cases hspec : compiler.branchSpec (useOf field message entry) with
  | error e =>
    rw [compileEntry_branch_error hname hgate hspec,
      compileEntry_branch_error hname' hgate' (hspecs.error_iff.mp hspec)]
    exact .error e
  | ok branch =>
    obtain ⟨tested, spec⟩ := branch
    obtain ⟨⟨_, spec'⟩, hspec', rfl, hentries⟩ := hspecs.exists_ok hspec
    rw [compileEntry_branch hname hgate hspec, compileEntry_branch hname' hgate' hspec',
      hentry.rule_eq]
    refine (ExceptRel.mapM (forall₂_imp_of_mem hentries (hnested hspec))).map ?_
    intro nested nested' hall hcustom
    rw [Rule.sites] at hcustom
    exact .branch _ gate field (halike.reads (branchSpec_eq_ok hspec).1)
      (forall₂_alike hall hcustom)

/-- Entries that differ at most in messages compile to alike rules, or fail with the same error: by
    induction on the weight of the first entry. -/
theorem compileEntry_alike (halike : Alike like own outer compiler compiler')
    (hentry : entry.Reworded compiler.registry own entry')
    (hdates : ∀ field, entry.input.dateField? = some field → like.reads field)
    (hmessage : outer message message') (field : String) :
    ExceptRel (AlikeIfBuiltIn like field) (compiler.compileEntry field message entry)
      (compiler'.compileEntry field message' entry') := by
  induction hweight : entry.weight using Nat.strongRecOn generalizing
    entry entry' message message' field with
  | ind weight ih =>
    subst hweight
    have hrule := hentry.rule_eq
    cases hname : customName? (splitRule entry.rule).1 with
    | some custom =>
      rw [compileEntry_custom hname, compileEntry_custom (hrule ▸ hname)]
      refine .ok fun hsites => ?_
      rw [customRule, Rule.sites, List.forall_mem_singleton, hname] at hsites
      cases hsites
    | none =>
      have hname' : customName? (splitRule entry'.rule).1 = none := hrule ▸ hname
      cases hshape : compiler.registry.find? (splitRule entry.rule).1 with
      | none =>
        have hshape' : compiler'.registry.find? (splitRule entry'.rule).1 = none := by
          rw [halike.registry_eq, hrule, hshape]
        rw [compileEntry_unknown hname hshape, compileEntry_unknown hname' hshape', hrule]
        exact .error _
      | some shape =>
        cases shape with
        | check shape =>
          have hshape' :
              compiler'.registry.find? (splitRule entry'.rule).1 = some (.check shape) := by
            rw [halike.registry_eq, hrule, hshape]
          rw [compileEntry_check hname hshape, compileEntry_check hname' hshape', hrule]
          have hparams := hentry.entryParams_eq hshape
          have huse := useOf_alike halike hentry hparams hdates hmessage field
          exact (CheckShape.alike_compile huse shape).map fun check check' hcheck _ =>
            .check _ hcheck
        | branch gate =>
          refine compileEntry_branch_alike halike hentry hname hshape message message' field ?_
          intro tested spec hspec inner hinner inner' hreworded
          refine ih inner.weight ?_ hreworded (fun name hdate => ?_) halike.outer_none tested rfl
          · exact Nat.lt_of_lt_of_le (weight_lt_of_branchSpec hspec hinner)
              (weight_entryParams_le entry)
          · have hnone := List.filterMap_eq_nil_iff.mp
              (RuleSpec.dateFields_of_branchSpec hspec) inner hinner
            rw [hnone] at hdate
            cases hdate

/-- Specifications that differ at most in messages compile to rules that do alike in all runs from
    related states, unless the record brings along some of them, or fail with the same error. -/
theorem compile_alike (halike : Alike like own outer compiler compiler') {spec spec' : RuleSpec}
    (hentries : List.Forall₂ (RuleEntry.Reworded compiler.registry own) spec.entries spec'.entries)
    (field : String) (hfield : like.reads field)
    (hdates : ∀ name ∈ spec.dateFields, like.reads name) (hmessage : outer message message') :
    ExceptRel
      (fun rules rules' =>
        (∀ site ∈ Rule.allSites field rules, customName? site.rule = none) →
          ∀ env value, (startRules env field rules value).Matches like.states
            (Outcome.Alike like.texts) (startRules env field rules' value))
      (compiler.compile spec field message) (compiler'.compile spec' field message') := by
  have hall : ExceptRel (List.Forall₂ (AlikeIfBuiltIn like field))
      (compiler.compile spec field message) (compiler'.compile spec' field message') := by
    refine ExceptRel.mapM (forall₂_imp_of_mem hentries fun entry hentry entry' hreworded => ?_)
    refine compileEntry_alike halike hreworded (fun name hdate => hdates name ?_) hmessage field
    exact List.mem_filterMap.mpr ⟨entry, hentry, hdate⟩
  exact hall.imp fun rules rules' hrules hcustom env value =>
    matches_startRules (forall₂_alike hrules hcustom) hfield env value

end Compiler

end FieldRules

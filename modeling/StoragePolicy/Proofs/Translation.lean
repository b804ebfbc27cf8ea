import StoragePolicy.Proofs.Requests

/-!
# What a Policy Is Coded As

The statements of a message are those of its policy, one for one and word for
word. `Policy.coded` says so by a formula, which is the right thing to compute
with and the wrong thing to believe, since it passes over tags that it does not
know. Here the statements of a message are related to the words of its policy by
what a reader of the chain would check: the same number in the same order, each
effect by its code, each action by its code and back again.

Which actions a resource permits is a matter of its kind and not of its name. An
object permits nothing that a bucket does not, so a policy keeps its meaning
when it is moved from an object to its bucket. A group has no action in common
with either, so that a policy that says anything at all fits one side only.

A policy that does not fit is refused for its first action that the resource
does not permit. Statements are coded one after another and each is searched on
its own, so the first refusal in the document is the first refusal of the first
statement that has one.

## Main definitions

* `Resource.kind`: Which of the three kinds a resource is.
* `Resource.PermitsAll`, `Resource.Refuses`: What a resource makes of a policy
  and of a single tag.
* `Statement.CodedAs`: Codes that say what a statement says.
* `Resource.Accepts`: A policy becomes these statements on a resource.

## Theorems

* `Statement.codedAs_coded`: Registered statements are coded faithfully.
* `Policy.scopeFault_eq_some_iff`: The fault names the first refused action.
* `Resource.accepts_iff`: What is accepted, and as which statements.
* `Resource.permits_iff`: What the kinds of resources permit.
* `Message.coding_exact`: Coding is exact.
-/

namespace StoragePolicy

/-! ## Kinds of resources -/

namespace Resource

/-- Which of the three kinds a resource is, by the family that it belongs to. -/
def kind : Resource → Scope
  | .bucket _ => .bucket
  | .object _ _ => .object
  | .group _ _ => .group

/-- The resource permits every action that the policy names. -/
def PermitsAll (r : Resource) (p : Policy) : Prop :=
  ∀ s ∈ p.statements, ∀ a : Action, a.tag ∈ s.tags → r.permits a = true

/-- The tag names an action that the resource does not permit. -/
def Refuses (r : Resource) (tag : String) : Prop :=
  ∃ a : Action, a.tag = tag ∧ r.permits a = false

/-- A resource permits the actions of its own family, and a bucket those on
    objects besides. -/
theorem permits_iff {r : Resource} {a : Action} :
    r.permits a = true ↔ a.scope = r.kind ∨ r.kind = .bucket ∧ a.scope = .object := by
  unfold permits
  generalize a.scope = scope
  -- Nine cases, of which each is decided by the two names.
  cases r <;> cases scope <;> simp only [covers, kind, reduceCtorEq, and_true, and_false, or_true,
    or_false, Bool.false_eq_true]

/-- Only the kind matters for what is permitted. -/
theorem permits_congr {r r' : Resource} (h : r.kind = r'.kind) (a : Action) :
    r.permits a = r'.permits a := by
  rw [Bool.eq_iff_iff, permits_iff, permits_iff, h]

/-- What an object permits, any bucket permits. -/
theorem permits_bucket {parent name : String} {a : Action}
    (h : (object parent name).permits a = true) (bucketName : String) :
    (bucket bucketName).permits a = true := by
  rcases permits_iff.mp h with hscope | ⟨hkind, -⟩
  · exact permits_iff.mpr (Or.inr ⟨rfl, hscope⟩)
  · exact Scope.noConfusion hkind

/-- Groups permit the actions on groups, and nothing else permits these. -/
theorem kind_eq_group_iff {r : Resource} {a : Action} (h : r.permits a = true) :
    r.kind = .group ↔ a.scope = .group := by
  rcases permits_iff.mp h with hscope | ⟨hkind, hscope⟩
  · rw [hscope]
  · rw [hkind, hscope]
    simp only [reduceCtorEq]

/-- The test that the search makes is whether a tag is refused; a tag without an
    action is not. -/
theorem any_ofTag?_iff {r : Resource} {tag : String} :
    (Action.ofTag? tag).any (fun a => !r.permits a) = true ↔ r.Refuses tag := by
  simp only [Option.any_eq_true, Bool.not_eq_true', Refuses]
  constructor
  · rintro ⟨a, ha, hpermits⟩
    exact ⟨a, Action.tag_of_ofTag? ha, hpermits⟩
  · rintro ⟨a, rfl, hpermits⟩
    exact ⟨a, Action.ofTag?_tag a, hpermits⟩

end Resource

/-! ## Codes -/

/-- The codes say what the statement says: its effect, and its actions in their
    order with repeats, so that the tags can be had back from them. -/
structure Statement.CodedAs (s : Statement) (c : CodedStatement) : Prop where
  /-- The effect stands there by its code. -/
  effect : c.effect = s.effect.code
  /-- So does each action, place by place. -/
  actions : List.Forall₂ (fun tag code => ∃ a : Action, a.tag = tag ∧ a.code = code) s.tags
    c.actions
  /-- Each code is found and has the tag that was written. -/
  restored : c.actions.map (fun code => (Action.ofCode? code).map Action.tag) = s.tags.map some

/-- A statement with registered tags is coded faithfully. Nothing is asked of the
    resource: it decides whether there is a message, not what it says. -/
theorem Statement.codedAs_coded {s : Statement} (h : s.Registered) : s.CodedAs s.coded where
  effect := rfl
  actions := by
    -- The place of each action is the one at which its tag was looked up.
    have hfound : List.Forall₂ (fun tag a => Action.resolve tag = .ok a) s.tags s.known :=
      mapM_eq_ok_iff.mp (actions_of_registered h)
    refine List.forall₂_map_right_iff.mpr (hfound.imp fun tag a ha => ?_)
    cases htag : Action.ofTag? tag with
    | none => simp only [Action.resolve, htag, reduceCtorEq] at ha
    | some b =>
        simp only [Action.resolve, htag, Except.ok.injEq] at ha
        subst ha
        exact ⟨b, Action.tag_of_ofTag? htag, rfl⟩
  restored := by
    have hback : ∀ a : Action, (Action.ofCode? a.code).map Action.tag = some a.tag := by
      intro a
      rw [Action.ofCode?_code, Option.map_some]
    calc
      s.coded.actions.map (fun code => (Action.ofCode? code).map Action.tag)
        = s.known.map (fun a => (Action.ofCode? a.code).map Action.tag) := by
          rw [coded, List.map_map]
          rfl
      _ = (s.known.map Action.tag).map some := by
          rw [funext hback, List.map_map]
          rfl
      _ = s.tags.map some := by rw [map_tag_known h]

theorem Policy.codedAs_coded {p : Policy} (h : p.Registered) :
    List.Forall₂ Statement.CodedAs p.statements p.coded := by
  rw [coded, List.forall₂_map_right_iff, List.forall₂_same]
  exact fun s hs => Statement.codedAs_coded (h s hs)

/-! ## Refusals -/

/-- The actions of a policy are those of its tags, whichever statement they stand
    in. -/
theorem Policy.known_eq (p : Policy) : p.known = p.tags.filterMap Action.ofTag? := by
  rw [known, tags, List.filterMap_flatMap]
  rfl

/-- A policy is refused for the first of its tags that names an action that the
    resource does not permit. -/
theorem Policy.scopeFault_eq_some_iff {p : Policy} {r : Resource} {f : Fault} :
    p.scopeFault r = some f ↔
      ∃ before tag, FirstWith r.Refuses p.tags before tag ∧
        f = .inapplicableAction tag r.text := by
  -- An unknown tag has no action that could be refused, so the search passes over it.
  have hfirst : ∀ tag,
      (p.tags.find? fun tag => (Action.ofTag? tag).any fun a => !r.permits a) = some tag ↔
        ∃ before, FirstWith r.Refuses p.tags before tag :=
    fun tag => find?_eq_some_iff_firstWith fun _ => Resource.any_ofTag?_iff
  rw [scopeFault, Resource.refused?, known_eq, List.find?_filterMap]
  constructor
  · intro h
    rcases Option.map_eq_some_iff.mp h with ⟨a, ha, rfl⟩
    rcases Option.bind_eq_some_iff.mp ha with ⟨tag, htag, hfound⟩
    rcases (hfirst tag).mp htag with ⟨before, hbefore⟩
    exact ⟨before, tag, hbefore, by rw [Action.tag_of_ofTag? hfound]⟩
  · rintro ⟨before, tag, hbefore, rfl⟩
    rcases hbefore.holds with ⟨a, rfl, -⟩
    rw [(hfirst a.tag).mpr ⟨before, hbefore⟩, Option.bind_some, Action.ofTag?_tag]
    rfl

/-! ## What is accepted -/

/-- The policy becomes these statements on the resource, for some operator,
    principal and expiration. -/
def Resource.Accepts (r : Resource) (p : Policy) (cs : List CodedStatement) : Prop :=
  ∃ (operator : Address) (q : Principal) (expiration : Option UInt64),
    Message.ofPolicy operator r q p expiration =
      .ok (.put (.ofRequest operator r q) cs expiration)

theorem Resource.accepts_iff {r : Resource} {p : Policy} {cs : List CodedStatement} :
    r.Accepts p cs ↔ p.Registered ∧ r.PermitsAll p ∧ cs = p.coded := by
  constructor
  · rintro ⟨operator, q, expiration, h⟩
    rcases Message.ofPolicy_eq_ok_iff.mp h with ⟨hregistered, hpermits, hm⟩
    injection hm with _ hcs
    exact ⟨hregistered, hpermits, hcs⟩
  · rintro ⟨hregistered, hpermits, rfl⟩
    exact ⟨⟨List.replicate 20 0, rfl⟩, .group 0, none,
      Message.ofPolicy_eq_ok_iff.mpr ⟨hregistered, hpermits, rfl⟩⟩

/-- What is accepted does not depend on who asks, for whom, or for how long. -/
theorem Resource.Accepts.ofPolicy {r : Resource} {p : Policy} {cs : List CodedStatement}
    (h : r.Accepts p cs) (operator : Address) (q : Principal) (expiration : Option UInt64) :
    Message.ofPolicy operator r q p expiration =
      .ok (.put (.ofRequest operator r q) cs expiration) := by
  rcases accepts_iff.mp h with ⟨hregistered, hpermits, rfl⟩
  exact Message.ofPolicy_eq_ok_iff.mpr ⟨hregistered, hpermits, rfl⟩

/-- What permits at least as much accepts at least as much, as the same
    statements. -/
theorem Resource.Accepts.mono {r r' : Resource} {p : Policy} {cs : List CodedStatement}
    (h : r.Accepts p cs) (hle : ∀ a : Action, r.permits a = true → r'.permits a = true) :
    r'.Accepts p cs := by
  rcases accepts_iff.mp h with ⟨hregistered, hpermits, hcs⟩
  exact accepts_iff.mpr ⟨hregistered, fun s hs a ha => hle a (hpermits s hs a ha), hcs⟩

/-- A policy that names an action does not fit both a group and anything else. -/
theorem Resource.Accepts.kind_eq_group {r r' : Resource} {p : Policy}
    {cs cs' : List CodedStatement} (h : r.Accepts p cs) (h' : r'.Accepts p cs')
    (hsome : p.tags ≠ []) (hgroup : r.kind = .group) : r'.kind = .group := by
  rcases accepts_iff.mp h with ⟨hregistered, hpermits, -⟩
  rcases accepts_iff.mp h' with ⟨-, hpermits', -⟩
  -- Any action of the policy tells the kinds apart.
  rcases List.exists_mem_of_ne_nil _ hsome with ⟨tag, htag⟩
  rcases List.mem_flatMap.mp htag with ⟨s, hs, hmem⟩
  rcases hregistered s hs tag hmem with ⟨a, rfl⟩
  have hscope : a.scope = .group := (kind_eq_group_iff (hpermits s hs a hmem)).mp hgroup
  exact (kind_eq_group_iff (hpermits' s hs a hmem)).mpr hscope

namespace Message

/-- Coding is exact. With registered tags, there is a message exactly if the
    resource permits all actions; its statements then say what those of the
    policy say, and otherwise the first action that is not permitted is named.
    What is accepted depends on the kind of the resource alone, an object's
    policy fits a bucket, and no policy with an action fits both a group and
    anything else. -/
theorem coding_exact (p : Policy) :
    (p.Registered → ∀ (operator : Address) (r : Resource) (q : Principal)
      (expiration : Option UInt64),
        ((∃ m, ofPolicy operator r q p expiration = .ok m) ↔ r.PermitsAll p) ∧
        (∀ m, ofPolicy operator r q p expiration = .ok m →
          ∃ cs, m = .put (.ofRequest operator r q) cs expiration ∧
            List.Forall₂ Statement.CodedAs p.statements cs) ∧
        ∀ f, ofPolicy operator r q p expiration = .error f ↔
          ∃ before tag, FirstWith r.Refuses p.tags before tag ∧
            f = .inapplicableAction tag r.text) ∧
    (∀ (r r' : Resource) (cs : List CodedStatement), r.kind = r'.kind → r.Accepts p cs →
      ∀ (operator : Address) (q : Principal) (expiration : Option UInt64),
        ofPolicy operator r' q p expiration =
          .ok (.put (.ofRequest operator r' q) cs expiration)) ∧
    (∀ (parent name bucketName : String) (cs : List CodedStatement),
      (Resource.object parent name).Accepts p cs → (Resource.bucket bucketName).Accepts p cs) ∧
    ∀ (r r' : Resource) (cs cs' : List CodedStatement), p.tags ≠ [] → r.Accepts p cs →
      r'.Accepts p cs' → r.kind = .group → r'.kind = .group := by
  refine ⟨fun hregistered operator r q expiration => ⟨?_, fun m hm => ?_, fun f => ?_⟩,
    fun r r' cs hkind h => ?_, fun parent name bucketName cs h => ?_,
    fun r r' cs cs' hsome h h' hgroup => h.kind_eq_group h' hsome hgroup⟩
  · constructor
    · rintro ⟨m, hm⟩
      exact (ofPolicy_eq_ok_iff.mp hm).2.1
    · intro hpermits
      exact ⟨_, ofPolicy_eq_ok_iff.mpr ⟨hregistered, hpermits, rfl⟩⟩
  · rcases ofPolicy_eq_ok_iff.mp hm with ⟨-, -, rfl⟩
    exact ⟨p.coded, rfl, Policy.codedAs_coded hregistered⟩
  · -- With registered tags, the scope is the only thing that can be at fault.
    rw [← Policy.scopeFault_eq_some_iff, ofPolicy_eq, Policy.registered_iff.mp hregistered,
      granting_none, granting_eq_error_iff, firstFault_singleton]
  · have hmoved : r'.Accepts p cs := h.mono fun a ha => by rwa [← Resource.permits_congr hkind]
    exact hmoved.ofPolicy
  · exact h.mono fun a ha => Resource.permits_bucket ha bucketName

/-- A policy with a repeated tag and an empty statement, on an object whose name
    could not be read and on a group. -/
theorem coding_exact_repeated :
    let o : Address := ⟨List.replicate 20 0xAB, rfl⟩
    let p : Policy := ⟨[⟨.deny, []⟩, ⟨.allow, ["get-object", "list-object", "get-object"]⟩]⟩
    let cs : List CodedStatement := [⟨2, []⟩, ⟨1, [6, 8, 6]⟩]
    p.Registered ∧
      (∃ m, ofPolicy o (.object "" "") (.group 7) p none = .ok m) ∧
      (Resource.object "" "").Accepts p cs ∧
      List.Forall₂ Statement.CodedAs p.statements cs ∧
      (Resource.bucket "photos").Accepts p cs ∧
      ofPolicy o (.group o "team") (.group 7) p none =
        .error (.inapplicableAction "get-object" (Resource.group o "team").text) ∧
      ¬ ∃ cs', (Resource.group o "team").Accepts p cs' := by
  intro o p cs
  have hregistered : p.Registered := Policy.registered_iff.mpr (by decide +kernel)
  have haccepts : (Resource.object "" "").Accepts p cs :=
    ⟨o, .group 7, none, by decide +kernel⟩
  rcases coding_exact p with ⟨hexact, -, hbucket, hgroup⟩
  have hobject := hexact hregistered o (.object "" "") (.group 7) none
  have hm := haccepts.ofPolicy o (.group 7) none
  have hcoded : List.Forall₂ Statement.CodedAs p.statements cs := by
    rcases hobject.2.1 _ hm with ⟨cs', hput, hcs'⟩
    injection hput with _ hcs
    rw [hcs]
    exact hcs'
  have hrefused : FirstWith (Resource.group o "team").Refuses p.tags [] "get-object" :=
    ⟨List.forall_mem_nil _, ⟨.getObject, rfl, rfl⟩, ["list-object", "get-object"], rfl⟩
  refine ⟨hregistered, ⟨_, hm⟩, haccepts, hcoded, hbucket "" "" "photos" cs haccepts,
    ((hexact hregistered o (.group o "team") (.group 7) none).2.2 _).mpr
      ⟨[], "get-object", hrefused, rfl⟩, ?_⟩
  rintro ⟨cs', h'⟩
  exact absurd (hgroup _ _ _ _ (by decide) h' haccepts rfl) (by decide)

end Message

end StoragePolicy

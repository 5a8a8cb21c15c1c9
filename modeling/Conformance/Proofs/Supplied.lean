import Conformance.Proofs.Matching

/-!
# Resolvers that are supplied

A predicate is made from a specification, from a text, or from either of them (`Predicate.Route`),
and in each case a resolver may be supplied. What a resolver says of a subject determines the
verdict on it and the explanation (`Predicate.Determined`), and a predicate follows a resolver if it
answers what that resolver determines (`Predicate.Follows`).

On every route, a predicate follows the resolver that is supplied if that counts as true, and
reflection otherwise (`Predicate.Route.follows_effective`). So one that counts as false is followed
only where it cannot be told from reflection. An empty registry can be told from it in every world:
it knows no class, not even `object`.
-/

namespace Conformance

/-- What is given is a specification, or an object of the same built-in class in both worlds. -/
def SpecArgument.IsShared (w w' : World) (given : SpecArgument) : Prop :=
  ∀ v, given = .value v → ∃ b, w.classOf v = .builtin b ∧ w'.classOf v = .builtin b

namespace Predicate

variable {w : World} {p : Predicate} {r r' : Resolver} {s : Spec} {subject : Value}
  {verdict : Except Fault Bool} {text : Except Fault String}

/-! ### What a resolver determines -/

variable (w r s subject) in
/-- The verdict on a subject, and the explanation, that come of what a resolver says of the subject
and of the method. -/
inductive Determined : Except Fault Bool → Except Fault String → Prop where
  /-- The resolver fails on the subject. -/
  | unresolvable {f : Fault} : r.resolve subject = .error f → Determined (.error f) (.error f)
  /-- The subject stands for no class. -/
  | unresolved : r.resolve subject = .ok none → Determined (.ok false) (.ok unresolvedText)
  /-- The resolver fails on the class for which the subject stands. -/
  | unsearchable {c : Value} {f : Fault} : r.resolve subject = .ok (some c) →
      r.findMethod c s.name = .error f → Determined (.error f) (.error f)
  /-- The class has no such method. -/
  | missing {c : Value} : r.resolve subject = .ok (some c) → r.findMethod c s.name = .ok none →
      Determined (.ok false)
        ((w.qualifiedText c).orFault.map fun className => missingText className s.name)
  /-- The class has a method of that name. -/
  | found {c : Value} {d : Descriptor} : r.resolve subject = .ok (some c) →
      r.findMethod c s.name = .ok (some d) →
      Determined (.ok (s.accepts d))
        ((w.qualifiedText c).orFault.map fun className => foundText className d)

/-- A predicate with the resolver answers what the resolver determines. -/
theorem determined_of_resolver :
    Determined w r s subject (holds ⟨s, r⟩ subject) (explain w ⟨s, r⟩ subject) := by
  unfold holds findMethod explain
  cases hr : r.resolve subject with
  | error f => exact .unresolvable hr
  | ok o =>
    cases o with
    | none => exact .unresolved hr
    | some c =>
      simp only [ok_bind]
      cases hm : r.findMethod c s.name with
      | error f => exact .unsearchable hr hm
      | ok o =>
        cases o with
        | none => exact .missing hr hm
        | some d => exact .found hr hm

/-- A resolver determines one verdict and one explanation. -/
theorem Determined.unique {verdict' : Except Fault Bool} {text' : Except Fault String}
    (h : Determined w r s subject verdict text) (h' : Determined w r s subject verdict' text') :
    verdict' = verdict ∧ text' = text := by
  cases h <;> cases h' <;> simp_all

/-- What a resolver determines is what a predicate with it answers. -/
theorem determined_iff :
    Determined w r s subject verdict text ↔
      holds ⟨s, r⟩ subject = verdict ∧ explain w ⟨s, r⟩ subject = text := by
  constructor
  · exact fun h => h.unique determined_of_resolver
  · rintro ⟨rfl, rfl⟩
    exact determined_of_resolver

variable (w r r' s) in
/-- The two resolvers determine the same of every subject. -/
def AgreeOn : Prop :=
  ∀ subject, ∃ verdict text,
    Determined w r s subject verdict text ∧ Determined w r' s subject verdict text

variable (w p r) in
/-- The verdicts and the explanations of the predicate are as the resolver determines them. -/
def Follows : Prop :=
  ∀ subject, Determined w r p.spec subject (p.holds subject) (p.explain w subject)

/-- A predicate follows its own resolver. -/
theorem follows_resolver (w : World) (p : Predicate) : p.Follows w p.resolver :=
  fun _ => determined_of_resolver

/-- A predicate follows the resolvers that cannot be told from its own. -/
theorem follows_iff_agreeOn : p.Follows w r ↔ AgreeOn w r p.resolver p.spec := by
  refine forall_congr' fun subject => ⟨fun h => ⟨_, _, h, determined_of_resolver⟩, ?_⟩
  rintro ⟨verdict, text, h, h'⟩
  obtain ⟨rfl, rfl⟩ := determined_iff.mp h'
  exact h

/-! ### Ways to make a predicate -/

/-- A way to make a predicate. -/
inductive Route where
  /-- From a specification. -/
  | spec
  /-- From a text, by the named class of predicates. -/
  | text (maker : String)
  /-- From a specification or a text. -/
  | argument

namespace Route

/-- The predicate that is made in this way of what is given, with a resolver if one is supplied. -/
def make (w : World) (route : Route) (given : SpecArgument) (resolver : Option Resolver) :
    Except Fault Predicate :=
  match route with
  | .spec => ofSpec? w given resolver
  | .text maker => create w given resolver maker
  | .argument => ofArgument w given resolver

variable {route : Route} {given : SpecArgument}

variable {w' : World} {resolver resolver' : Option Resolver}

/-- A text denotes the same specification in every world, whatever resolver is supplied. -/
theorem ofText_eq_map (text maker : String) :
    ofText w text resolver maker =
      (ofText w' text resolver' maker).map fun p => ofSpec w p.spec resolver := by
  unfold ofText
  cases Spec.parse text <;> rfl

theorem create_eq_map {v : Value} (h : w.specText v = w'.specText v) (maker : String) :
    create w (.value v) resolver maker =
      (create w' (.value v) resolver' maker).map fun p => ofSpec w p.spec resolver := by
  rw [create, create, h]
  cases w'.specText v with
  | error f => rfl
  | ok text => exact ofText_eq_map text maker

theorem ofArgument_eq_map {v : Value} (h : w.specText v = w'.specText v)
    (hclaimed : (World.claimedClass? w.evaluator v).map (fun _ => ()) =
      (World.claimedClass? w'.evaluator v).map fun _ => ()) :
    ofArgument w (.value v) resolver =
      (ofArgument w' (.value v) resolver').map fun p => ofSpec w p.spec resolver := by
  rcases of_map_eq_map hclaimed with ⟨c, hc, hc'⟩ | ⟨r, r', hr, hr', -⟩
  · rw [ofArgument, ofArgument, hc, hc']
    rfl
  · rw [ofArgument, ofArgument, hr, hr']
    exact create_eq_map h className

theorem ofSpec?_eq_map (h : ∀ v, given = .value v → w.typeName v = w'.typeName v) :
    ofSpec? w given resolver =
      (ofSpec? w' given resolver').map fun p => ofSpec w p.spec resolver := by
  rcases given with s | v
  · rfl
  · have hname := h v rfl
    cases v <;> simp only [ofSpec?, hname] <;> rfl

/-- What is given denotes the same specification whatever resolver is supplied, and also in another
world, unless it is an object of a class that is declared. -/
theorem make_eq_map (route : Route) (h : w' = w ∨ given.IsShared w w') :
    route.make w given resolver =
      (route.make w' given resolver').map fun p => ofSpec w p.spec resolver := by
  have hname (v : Value) (hv : given = .value v) : w.typeName v = w'.typeName v := by
    rcases h with rfl | h
    · rfl
    · obtain ⟨b, hb, hb'⟩ := h v hv
      exact World.typeName_eq_of_builtin hb hb'
  have hspec (v : Value) (hv : given = .value v) : w.specText v = w'.specText v := by
    rcases h with rfl | h
    · rfl
    · obtain ⟨b, hb, hb'⟩ := h v hv
      exact World.specText_eq_of_builtin hb hb'
  have hclaimed (v : Value) (hv : given = .value v) :
      (World.claimedClass? w.evaluator v).map (fun _ => ()) =
        (World.claimedClass? w'.evaluator v).map fun _ => () := by
    rcases h with rfl | h
    · rfl
    · obtain ⟨b, hb, hb'⟩ := h v hv
      rw [World.claimedClass?_of_honest (World.isHonest_of_builtin hb),
        World.claimedClass?_of_honest (World.isHonest_of_builtin hb')]
      rfl
  cases route with
  | spec => exact ofSpec?_eq_map hname
  | text maker =>
    rcases given with s | v
    · rfl
    · exact create_eq_map (hspec v rfl) maker
  | argument =>
    rcases given with s | v
    · rfl
    · exact ofArgument_eq_map (hspec v rfl) (hclaimed v rfl)

/-- A predicate asks the resolver that is used when the given one is supplied. -/
theorem resolver_of_make (h : route.make w given resolver = .ok p) :
    p.resolver = w.orReflection resolver := by
  have hmap : route.make w given resolver =
      (route.make w given resolver).map fun p => ofSpec w p.spec resolver :=
    make_eq_map route (Or.inl rfl)
  rw [hmap] at h
  cases hmake : route.make w given resolver with
  | error f =>
    rw [hmake] at h
    cases h
  | ok q =>
    rw [hmake] at h
    obtain rfl := Except.ok.inj h
    rfl

end Route

end Predicate

/-! ### Resolvers that count as false -/

namespace World

variable {w : World} {r : Resolver}

theorem orReflection_of_truthy (h : r.isTruthy = true) : w.orReflection (some r) = r := by
  rw [orReflection, h]
  rfl

theorem orReflection_of_falsy (h : r.isTruthy = false) :
    w.orReflection (some r) = w.reflection := by
  rw [orReflection, h]
  rfl

/-- A registry counts as true if and only if it has entries. -/
theorem isTruthy_registry_iff {entries : List (String × ClassRef)} :
    (w.registry entries).isTruthy = true ↔ entries ≠ [] := by
  cases entries <;> simp [registry]

/-- No class stands for one in a registry. -/
theorem registry_resolve_cls {entries : List (String × ClassRef)} {c : ClassRef}
    (h : w.isText (.cls c) = .ok false) :
    (w.registry entries).resolve (.cls c) = .ok none := by
  simp only [registry, registered?, h, ok_bind]
  rfl

end World

namespace Predicate

variable {w : World} {p : Predicate} {s : Spec}

/-- The class of all objects is explained by reflection, if it is, in words that begin with its
name. -/
theorem explain_object {t : String}
    (h : explain w ⟨s, w.reflection⟩ (.cls (.builtin .object)) = .ok t) :
    ∃ rest, t = "object" ++ rest := by
  have hresolve : w.reflection.resolve (.cls (.builtin .object)) =
      .ok (some (.cls (.builtin .object))) := rfl
  have hname : w.qualifiedText (.cls (.builtin .object)) = .ok "object" :=
    (World.isOrdinary_builtin .object).qualifiedText
  rw [explain, hresolve, ok_bind] at h
  obtain ⟨found, -, h⟩ := bind_eq_ok_iff.mp h
  cases found with
  | none =>
    rw [hname] at h
    obtain rfl := pure_eq_ok_iff.mp h
    exact ⟨_, String.append_assoc ..⟩
  | some d =>
    rw [hname] at h
    obtain rfl := pure_eq_ok_iff.mp h
    exact ⟨_, String.append_assoc ..⟩

/-- In every world the empty registry can be told from reflection, by the class of all objects. -/
theorem not_agreeOn_empty_registry (w : World) (s : Spec) :
    ¬ AgreeOn w (w.registry []) w.reflection s := by
  intro h
  obtain ⟨verdict, text, hregistry, hreflection⟩ := h (.cls (.builtin .object))
  have hnone : Determined w (w.registry []) s (.cls (.builtin .object)) (.ok false)
      (.ok unresolvedText) := .unresolved (World.registry_resolve_cls rfl)
  obtain ⟨-, htext⟩ := hnone.unique hregistry
  obtain ⟨-, hexplain⟩ := determined_iff.mp hreflection
  obtain ⟨rest, hrest⟩ := explain_object (hexplain.trans htext)
  have hhead := congrArg (fun t : String => t.toList.head?) hrest
  simp [unresolvedText] at hhead

namespace Route

variable {route : Route} {given : SpecArgument} {r : Resolver}

theorem follows_of_make_none (h : route.make w given none = .ok p) : p.Follows w w.reflection := by
  have hr : p.resolver = w.reflection := resolver_of_make h
  exact hr ▸ p.follows_resolver w

theorem resolver_of_make_truthy (h : route.make w given (some r) = .ok p)
    (hr : r.isTruthy = true) : p.resolver = r :=
  (resolver_of_make h).trans (World.orReflection_of_truthy hr)

theorem resolver_of_make_falsy (h : route.make w given (some r) = .ok p)
    (hr : r.isTruthy = false) : p.resolver = w.reflection :=
  (resolver_of_make h).trans (World.orReflection_of_falsy hr)

/-- A predicate follows the resolver that is supplied if and only if that counts as true or cannot
be told from reflection. -/
theorem follows_iff (h : route.make w given (some r) = .ok p) :
    p.Follows w r ↔ r.isTruthy = true ∨ AgreeOn w r w.reflection p.spec := by
  cases hr : r.isTruthy with
  | true =>
    refine iff_of_true ?_ (Or.inl rfl)
    exact resolver_of_make_truthy h hr ▸ p.follows_resolver w
  | false =>
    rw [follows_iff_agreeOn, resolver_of_make_falsy h hr]
    exact ⟨Or.inr, fun h => h.resolve_left Bool.false_ne_true⟩

theorem follows_registry_iff {entries : List (String × ClassRef)}
    (h : route.make w given (some (w.registry entries)) = .ok p) :
    p.Follows w (w.registry entries) ↔ entries ≠ [] := by
  rw [follows_iff h, World.isTruthy_registry_iff, or_iff_left_iff_imp]
  rintro hagree rfl
  exact absurd hagree (not_agreeOn_empty_registry w p.spec)

/-- **A predicate follows the resolver that is supplied if and only if that counts as true**, or if
it cannot be told from reflection, on every route on which a predicate is made and for every
subject. Reflection takes the place of a resolver that counts as false as it does where none is
supplied. A registry is followed if and only if it has entries. What is required of the method does
not depend on the resolver, nor on the world if it is not an object of a declared class that says
so. -/
theorem follows_supplied_iff (w : World) (route : Route) (given : SpecArgument) :
    (∀ (w' : World) (resolver resolver' : Option Resolver), w' = w ∨ given.IsShared w w' →
      route.make w given resolver =
        (route.make w' given resolver').map fun p => ofSpec w p.spec resolver) ∧
    (∀ p, route.make w given none = .ok p → p.resolver = w.reflection ∧
      p.Follows w w.reflection) ∧
    (∀ r p, route.make w given (some r) = .ok p →
      (r.isTruthy = true → p.resolver = r ∧ p.Follows w r) ∧
      (r.isTruthy = false → p.resolver = w.reflection ∧ p.Follows w w.reflection) ∧
      (p.Follows w r ↔ r.isTruthy = true ∨ AgreeOn w r w.reflection p.spec)) ∧
    ∀ entries p, route.make w given (some (w.registry entries)) = .ok p →
      (p.Follows w (w.registry entries) ↔ entries ≠ []) := by
  refine ⟨fun w' _ _ => make_eq_map route,
    fun p h => ⟨resolver_of_make h, follows_of_make_none h⟩, fun r p h => ⟨fun hr => ?_,
    fun hr => ?_, follows_iff h⟩, fun entries p h => follows_registry_iff h⟩
  · have hp := resolver_of_make_truthy h hr
    exact ⟨hp, hp ▸ p.follows_resolver w⟩
  · have hp := resolver_of_make_falsy h hr
    exact ⟨hp, hp ▸ p.follows_resolver w⟩

end Route

end Predicate

/-! ### A registry without entries -/

/-- The class `K` has a method `a`. -/
def Declaration.unregistered : List Declaration :=
  [.plain "K" [("a", .function none none none)]]

/-- The world with this class. -/
def World.unregistered : World :=
  (Declaration.unregistered.foldlM World.declare {}).toOption.getD {}

namespace Predicate

/-- A predicate for a method `a` follows the registry that knows `K` by a text, and holds of this
text. -/
theorem follows_supplied_iff_registered :
    ∃ p, Route.argument.make World.unregistered (.value (.str "a"))
        (some (World.unregistered.registry [("k", .declared "K")])) = .ok p ∧
      p.Follows World.unregistered (World.unregistered.registry [("k", .declared "K")]) ∧
      p.holds (.str "k") = .ok true := by
  obtain ⟨-, -, htruthy, hregistry⟩ :=
    Route.follows_supplied_iff World.unregistered .argument (.value (.str "a"))
  exact ⟨_, rfl, (hregistry [("k", .declared "K")] _ rfl).mpr (List.cons_ne_nil _ _), rfl⟩

/-- In a registry without entries `K` stands for no class. However a predicate is made with it, it
finds the method `a` of `K`. -/
theorem not_follows_empty_registry :
    Declaration.unregistered.foldlM World.declare {} = .ok World.unregistered ∧
      ∃ p, Route.spec.make World.unregistered (.spec .plain)
          (some (World.unregistered.registry [])) = .ok p ∧
        (Route.text className).make World.unregistered (.value (.str "a"))
          (some (World.unregistered.registry [])) = .ok p ∧
        Route.argument.make World.unregistered (.value (.str "a"))
          (some (World.unregistered.registry [])) = .ok p ∧
        Determined World.unregistered (World.unregistered.registry []) p.spec
          (.cls (.declared "K")) (.ok false) (.ok unresolvedText) ∧
        p.holds (.cls (.declared "K")) = .ok true ∧
        p.explain World.unregistered (.cls (.declared "K")) = .ok "m.K has public method a" ∧
        ¬ p.Follows World.unregistered (World.unregistered.registry []) := by
  have hdetermined : Determined World.unregistered (World.unregistered.registry []) .plain
      (.cls (.declared "K")) (.ok false) (.ok unresolvedText) :=
    .unresolved (World.registry_resolve_cls rfl)
  have hname : World.unregistered.qualifiedText (.cls (.declared "K")) = .ok "m.K" :=
    World.IsOrdinary.qualifiedText (Or.inl rfl)
  have hfound : Determined World.unregistered World.unregistered.reflection .plain
      (.cls (.declared "K")) (.ok true) (.ok "m.K has public method a") := by
    obtain ⟨d, hd, haccepts, htext⟩ : ∃ d,
        World.unregistered.findMethod (.cls (.declared "K")) "a" = .ok (some d) ∧
          Spec.plain.accepts d = true ∧ foundText "m.K" d = "m.K has public method a" :=
      ⟨_, rfl, rfl, rfl⟩
    have hdet : Determined World.unregistered World.unregistered.reflection .plain
        (.cls (.declared "K")) (.ok (Spec.plain.accepts d))
        ((World.unregistered.qualifiedText (.cls (.declared "K"))).orFault.map fun className =>
          foundText className d) := .found rfl hd
    rwa [haccepts, hname, Outcome.orFault_ok, Except.map, htext] at hdet
  obtain ⟨hholds, hexplain⟩ := determined_iff.mp hfound
  refine ⟨rfl, ⟨.plain, World.unregistered.reflection⟩, rfl, rfl, rfl, hdetermined, hholds,
    hexplain, fun h => ?_⟩
  obtain ⟨hverdict, -⟩ := (h (.cls (.declared "K"))).unique hdetermined
  cases hverdict.trans hholds

end Predicate

end Conformance

import Conformance.Spec

/-!
# Descriptors of a method

A descriptor says of a method that was found what it is called and which modifiers it has.
Exactly one of the modifiers is a visibility. `Spec.accepts` decides whether a method with
this descriptor meets a specification.
-/

namespace Conformance

namespace Modifiers

/-- The narrowest visibility among the members; the widest one if there is none. -/
def visibility (ms : Modifiers) : Visibility :=
  if ms.contains .priv then .priv else if ms.contains .prot then .prot else .pub

/-- The words for the modifiers of a method: final, abstract, visibility, static. -/
def words (ms : Modifiers) : List String :=
  (if ms.contains .final then ["final"] else []) ++
  (if ms.contains .abstract then ["abstract"] else []) ++
  [ms.visibility.keyword] ++
  (if ms.contains .static then ["static"] else [])

end Modifiers

/-- The properties of a method other than its name and visibility. -/
structure Traits where
  /-- The method is called on the class. -/
  isStatic : Bool := false
  /-- The method has yet to be defined by a derived class. -/
  isAbstract : Bool := false
  /-- Derived classes may not redefine the method. -/
  isFinal : Bool := false
  deriving DecidableEq, Repr

/-- A method that was found: its name, as it was asked for, and its modifiers. -/
structure Descriptor where
  /-- The name of the method. -/
  name : String
  /-- The modifiers of the method. -/
  modifiers : Modifiers
  /-- The method has a name. -/
  name_ne_empty : name ≠ ""
  /-- The method has one visibility. -/
  length_visibilities : modifiers.visibilities.length = 1
  deriving DecidableEq

/-- What is given for the modifiers of a descriptor. -/
inductive ModifiersArgument where
  /-- A set of modifiers. -/
  | modifiers (ms : Modifiers)
  /-- Some other value. -/
  | other (v : Value)

namespace Descriptor

/-- The descriptor with this name and these modifiers, if they make one. -/
def ofModifiers (name : String) (ms : Modifiers) : Except Fault Descriptor :=
  if hn : name ≠ "" then
    if hv : ms.visibilities.length = 1 then .ok ⟨name, ms, hn, hv⟩
    else .error (.visibilityCount ms.visibilities)
  else .error .emptyName

/-- Builds a descriptor from parts that need not fit. The name is checked first, then the
modifiers. A name that is no text shows where the descriptor is written. -/
def build (name : Value) (given : ModifiersArgument) : Except Fault Descriptor :=
  if name.isTruthy then
    match given, name with
    | .other v, _ => .error (.modifiersExpected v)
    | .modifiers ms, .str s => ofModifiers s ms
    | .modifiers ms, v =>
      if ms.visibilities.length = 1 then .error (.wordNotText (ms.words.length + 1) v)
      else .error (.visibilityCount ms.visibilities)
  else .error .emptyName

/-- The modifiers of a method with this visibility and these traits. -/
def modifiersOf (v : Visibility) (t : Traits) : Modifiers :=
  .ofList (v.modifier ::
    ((if t.isStatic then [Modifier.static] else []) ++
     (if t.isAbstract then [Modifier.abstract] else []) ++
     (if t.isFinal then [Modifier.final] else [])))

/-- The descriptor of a method with this name, visibility and traits. -/
def create (name : String) (v : Visibility) (t : Traits) : Except Fault Descriptor :=
  ofModifiers name (modifiersOf v t)

/-- The method has the modifier. -/
def has (d : Descriptor) (m : Modifier) : Bool := d.modifiers.contains m

/-- The method has the flag. -/
def flag (d : Descriptor) : Flag → Bool
  | .static => d.has .static
  | .abstract => d.has .abstract
  | .final => d.has .final

/-- The visibility of the method. -/
def visibility (d : Descriptor) : Visibility := d.modifiers.visibility

/-- The method in words, such as `final public static method foo`. -/
def text (d : Descriptor) : String := " ".intercalate (d.modifiers.words ++ ["method", d.name])

end Descriptor

/-- A flag is as required, where something is required of it. -/
def flagMeets (required : Option Bool) (actual : Bool) : Bool :=
  match required with
  | none => true
  | some b => actual == b

/-- One of the modifiers is a visibility that is admitted, where access is restricted. -/
def accessMeets (required : Option Access) (ms : Modifiers) : Bool :=
  match required with
  | none => true
  | some a => Visibility.all.any fun v => a.allows v && ms.contains v.modifier

/-- A method with this descriptor meets the specification. -/
def Spec.accepts (s : Spec) (d : Descriptor) : Bool :=
  s.name == d.name &&
    flagMeets s.isStatic (d.has .static) &&
    accessMeets s.access d.modifiers &&
    flagMeets s.isAbstract (d.has .abstract) &&
    flagMeets s.isFinal (d.has .final)

end Conformance

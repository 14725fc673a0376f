import SectionTimes.Flag.Name

/-!
# Declared flags in a hierarchy of test classes

Tests and test classes declare flags that must be off, and flags that must be on.  A method that is
made static or a class method is wrapped, and what is declared after that is on the wrapper and not
on the method.  A class inherits from others, and the classes that it inherits from come in one
order: each class before those it inherits from, and the classes that one inherits from in the order
in which it names them.  Where no order does that, there is no such class.
-/

namespace SectionTimes.Flag

/-- What a declaration asks of its flags. -/
inductive Want where
  | off
  | on
  deriving DecidableEq, Repr

/-- The declarations on one function or class. -/
structure Tags where
  /-- The flags declared to be off. -/
  off : Option (List String)
  /-- The flags declared to be on. -/
  on : Option (List String)
  deriving DecidableEq, Repr

/-- No declarations. -/
def Tags.none : Tags := ⟨.none, .none⟩

/-- The flags of one declaration. -/
def Tags.get (t : Tags) : Want → Option (List String)
  | .off => t.off
  | .on => t.on

/-- The declarations with one written anew. -/
def Tags.put (t : Tags) (want : Want) (flags : List String) : Tags :=
  match want with
  | .off => { t with off := some flags }
  | .on => { t with on := some flags }

/-- Declares flags. -/
def Tags.declare (t : Tags) (want : Want) (values : List Value) : Except Fault Tags :=
  (checkNames values).map (t.put want)

/-- A class, by its place among the classes. -/
abbrev ClassId := Nat

/-- What a method is called with.  All but an instance is given by a wrapper around the method,
which has declarations of its own. -/
inductive MethodKind where
  /-- An instance. -/
  | ordinary
  /-- Nothing. -/
  | static (wrapper : Tags)
  /-- The class. -/
  | ofClass (wrapper : Tags)
  deriving DecidableEq, Repr

/-- A method. -/
structure Method where
  name : String
  /-- What it is called with. -/
  kind : MethodKind
  /-- What is declared on the method itself. -/
  tags : Tags
  deriving DecidableEq, Repr

namespace Method

/-- The method made static. -/
def makeStatic (m : Method) : Method := { m with kind := .static Tags.none }

/-- The method made a class method. -/
def makeOfClass (m : Method) : Method := { m with kind := .ofClass Tags.none }

/-- Declares flags on a method as it stands in its class, which is on its wrapper if it has one. -/
def declare (m : Method) (want : Want) (values : List Value) : Except Fault Method := do
  match m.kind with
  | .ordinary => return { m with tags := ← m.tags.declare want values }
  | .static wrapper => return { m with kind := .static (← wrapper.declare want values) }
  | .ofClass wrapper => return { m with kind := .ofClass (← wrapper.declare want values) }

end Method

/-- A test class. -/
structure TestClass where
  name : String
  tags : Tags
  /-- Its own methods; of two with one name the later counts. -/
  methods : List Method
  /-- The class itself and those that it inherits from, in their order. -/
  order : List ClassId
  deriving DecidableEq, Repr

/-- Test classes, each of which inherits from earlier ones. -/
structure Hierarchy where
  classes : List TestClass
  deriving DecidableEq, Repr

/-- Why a class cannot be added. -/
inductive HierarchyFault where
  | unknownClass (name : String)
  /-- There is no order for it. -/
  | noOrder
  deriving DecidableEq, Repr

/-- Joins orders: the next class is the first head that stands behind the head of none. -/
def merge : Nat → List (List ClassId) → Option (List ClassId)
  | 0, orders => if orders.all List.isEmpty then some [] else none
  | fuel + 1, orders =>
    if orders.all List.isEmpty then some []
    else
      match (orders.filterMap List.head?).find? fun c => orders.all fun o => !o.tail.contains c with
      | none => none
      | some c =>
        -- every order that the class heads goes on behind it
        (merge fuel (orders.map fun o => if o.head? = some c then o.tail else o)).map (c :: ·)

namespace Hierarchy

/-- No classes. -/
def empty : Hierarchy := ⟨[]⟩

/-- The class of a name; of several the last. -/
def find? (h : Hierarchy) (name : String) : Option ClassId :=
  (h.classes.zipIdx.reverse.find? fun (c, _) => c.name = name).map Prod.snd

/-- The order of a class. -/
def orderOf (h : Hierarchy) (c : ClassId) : List ClassId :=
  (h.classes[c]?.map TestClass.order).getD []

/-- The declarations on a class itself. -/
def tagsOf (h : Hierarchy) (c : ClassId) : Tags :=
  (h.classes[c]?.map TestClass.tags).getD Tags.none

/-- The classes of names. -/
def findAll (h : Hierarchy) (names : List String) : Except HierarchyFault (List ClassId) :=
  names.mapM fun name =>
    match h.find? name with
    | some c => .ok c
    | none => .error (.unknownClass name)

/-- The order of a class that inherits from others. -/
def orderFrom (h : Hierarchy) (bases : List ClassId) : Option (List ClassId) :=
  let orders := bases.map h.orderOf ++ [bases]
  (merge orders.flatten.length orders).map (h.classes.length :: ·)

/-- Adds a class on which nothing is declared yet. -/
def add (h : Hierarchy) (name : String) (bases : List String) (methods : List Method) :
    Except HierarchyFault Hierarchy := do
  match h.orderFrom (← h.findAll bases) with
  | some order => return ⟨h.classes ++ [⟨name, Tags.none, methods, order⟩]⟩
  | none => throw .noOrder

/-- Declares flags on the class that was added last. -/
def declare (h : Hierarchy) (want : Want) (values : List Value) : Except Fault Hierarchy := do
  match h.classes.getLast? with
  | some c => return ⟨h.classes.dropLast ++ [{ c with tags := ← c.tags.declare want values }]⟩
  | none => return h

/-- The method of a name that a class has, its own or the first that it inherits. -/
def method? (h : Hierarchy) (c : ClassId) (name : String) : Option Method :=
  (h.orderOf c).findSome? fun k =>
    ((h.classes[k]?.map TestClass.methods).getD []).reverse.find? fun m => m.name = name

end Hierarchy

end SectionTimes.Flag

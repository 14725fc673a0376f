import SectionTimes.Flag.Hierarchy

/-!
# The flags that a test requires

A test is a function, a method, a class or an instance.  For each of the two declarations, the
one on the test itself counts if there is one, and otherwise the first in the order of the class
that the test belongs to.  What is had from a class is the method without its wrapper.
-/

namespace SectionTimes.Flag

/-- What can be a test, or be named as what a test belongs to. -/
inductive Subject where
  /-- A function that belongs to no class, with what is declared on it. -/
  | function (tags : Tags)
  /-- A method that knows the class it is called for. -/
  | bound (tags : Tags) (cls : ClassId)
  | cls (c : ClassId)
  | inst (c : ClassId)
  deriving DecidableEq, Repr

/-- The flags that a test requires. -/
structure Required where
  off : List String
  on : List String
  deriving DecidableEq, Repr

namespace Subject

/-- A method as it is had from a class. -/
def ofMethod (m : Method) (c : ClassId) : Subject :=
  match m.kind with
  | .ofClass _ => .bound m.tags c
  | _ => .function m.tags

/-- A method as it is had from an instance of a class. -/
def ofInstanceMethod (m : Method) (c : ClassId) : Subject :=
  match m.kind with
  | .static _ => .function m.tags
  | _ => .bound m.tags c

/-- What is declared on a subject itself; nothing is on an instance. -/
def tags (h : Hierarchy) : Subject → Tags
  | .function tags => tags
  | .bound tags _ => tags
  | .cls c => h.tagsOf c
  | .inst _ => Tags.none

/-- The class that a test belongs to of itself. -/
def home? : Subject → Option ClassId
  | .bound _ c => some c
  | _ => none

/-- The class that is meant where a subject is named as what a test belongs to. -/
def asClass? : Subject → Option ClassId
  | .cls c => some c
  | .inst c => some c
  | _ => none

end Subject

/-- The class that a test belongs to, with what is named as its owner. -/
def ownerClass? (test : Subject) (owner : Option Subject) : Option ClassId :=
  match owner with
  | some o => o.asClass?
  | none => test.home?

/-- The flags of one declaration that count for a test of a class. -/
def resolve (h : Hierarchy) (test : Subject) (owner : Option ClassId) (want : Want) :
    List String :=
  match (test.tags h).get want with
  | some flags => flags
  | none =>
    match owner with
    | none => []
    | some c => ((h.orderOf c).findSome? fun k => (h.tagsOf k).get want).getD []

/-- The flags that a test requires. -/
def required (h : Hierarchy) (test : Subject) (owner : Option Subject) : Required :=
  let c := ownerClass? test owner
  ⟨resolve h test c .off, resolve h test c .on⟩

end SectionTimes.Flag

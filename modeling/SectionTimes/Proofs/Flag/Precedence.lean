import SectionTimes.Flag.Requirement
import SectionTimes.Proofs.Flag.Lineage

/-!
# Which declaration counts

For a method that a class has, the declaration on the method counts, or else that of the first
class in the order, which is one that no class below it overrides.  The declarations of the two
kinds do not bear on each other, and it makes no difference how a method is had from its class.

A declaration is on the one thing it is made on.  One that is made on the wrapper of a method is not
on the method, and does not keep that of a class from counting.
-/

namespace SectionTimes.Flag

variable {h h' : Hierarchy} {parents : List (List ClassId)} {c k : ClassId} {want : Want}
  {flags : List String}

/-- The flags of one kind that a test requires. -/
def Required.get (r : Required) : Want → List String
  | .off => r.off
  | .on => r.on

theorem get_required (h : Hierarchy) (test : Subject) (owner : Option Subject) (want : Want) :
    (required h test owner).get want = resolve h test (ownerClass? test owner) want := by
  cases want <;> rfl

/-! ## Inheritance -/

/-- The declarations of one kind. -/
def Tags.only (t : Tags) : Want → Tags
  | .off => ⟨t.off, .none⟩
  | .on => ⟨.none, t.on⟩

/-- What a method is called with, where the wrapper has its declarations of one kind. -/
def MethodKind.only (kind : MethodKind) (want : Want) : MethodKind :=
  match kind with
  | .ordinary => .ordinary
  | .static wrapper => .static (wrapper.only want)
  | .ofClass wrapper => .ofClass (wrapper.only want)

/-- A method with its declarations of one kind. -/
def Method.only (m : Method) (want : Want) : Method :=
  { m with kind := m.kind.only want, tags := m.tags.only want }

/-- A class with the declarations of one kind on it and on its methods. -/
def TestClass.only (cls : TestClass) (want : Want) : TestClass :=
  { cls with tags := cls.tags.only want, methods := cls.methods.map fun m => m.only want }

/-- The classes with the declarations of one kind. -/
def Hierarchy.only (h : Hierarchy) (want : Want) : Hierarchy :=
  ⟨h.classes.map fun cls => cls.only want⟩

/-- A subject with its declarations of one kind. -/
def Subject.only (s : Subject) (want : Want) : Subject :=
  match s with
  | .function tags => .function (tags.only want)
  | .bound tags c => .bound (tags.only want) c
  | .cls c => .cls c
  | .inst c => .inst c

theorem Tags.get_put (t : Tags) (want want' : Want) (flags : List String) :
    (t.put want flags).get want' = if want' = want then some flags else t.get want' := by
  cases want <;> cases want' <;> rfl

theorem Tags.get_of_declare {t t' : Tags} {values : List Value}
    (hdeclare : t.declare want values = .ok t') :
    ∃ flags, checkNames values = .ok flags ∧
      ∀ want', t'.get want' = if want' = want then some flags else t.get want' := by
  unfold Tags.declare at hdeclare
  cases hnames : checkNames values with
  | error e =>
    rw [hnames] at hdeclare
    cases hdeclare
  | ok flags =>
    rw [hnames] at hdeclare
    obtain rfl := Except.ok.inj hdeclare
    exact ⟨flags, rfl, fun want' => t.get_put want want' flags⟩

/-- What is declared on a method that is not wrapped takes the place of an earlier declaration of
its kind there. -/
theorem Method.get_of_declare {m m' : Method} {values : List Value} (hkind : m.kind = .ordinary)
    (hdeclare : m.declare want values = .ok m') :
    m'.kind = .ordinary ∧ ∃ flags, checkNames values = .ok flags ∧
      ∀ want', m'.tags.get want' = if want' = want then some flags else m.tags.get want' := by
  unfold Method.declare at hdeclare
  rw [hkind] at hdeclare
  obtain ⟨tags, htags, hdeclare⟩ := exists_of_bind hdeclare
  obtain rfl := Except.ok.inj hdeclare
  exact ⟨rfl, Tags.get_of_declare htags⟩

/-- A method on which nothing is declared. -/
def plainTest : Method := ⟨"test", .ordinary, Tags.none⟩

/-- A class with the first method, two that inherit from it, and one that inherits from these.  The
first class and the third have a declaration of one kind, and the first has one of the other. -/
def diamond : Hierarchy where
  classes :=
    [⟨"A", ⟨some ["p.a"], some ["p.b"]⟩, [plainTest], [0]⟩, ⟨"B", Tags.none, [], [1, 0]⟩,
      ⟨"C", ⟨some ["p.c"], none⟩, [], [2, 0]⟩, ⟨"D", Tags.none, [], [3, 1, 2, 0]⟩]

/-- The parents of its classes. -/
def diamondParents : List (List ClassId) := [[], [0], [0], [1, 2]]

theorem isBuilt_diamond : IsBuilt diamond diamondParents := by
  have hA : IsBuilt ⟨[⟨"A", Tags.none, [plainTest], [0]⟩]⟩ [[]] :=
    .add .empty (show Hierarchy.empty.findAll [] = .ok [] from rfl)
      (show Hierarchy.empty.add "A" [] [plainTest] = _ from rfl)
  have hA' : IsBuilt ⟨[⟨"A", ⟨some ["p.a"], some ["p.b"]⟩, [plainTest], [0]⟩]⟩ [[]] :=
    .declare (.declare hA (show Hierarchy.declare _ .off [.text "p.a"] = _ from rfl))
      (show Hierarchy.declare _ .on [.text "p.b"] = _ from rfl)
  have hB := IsBuilt.add hA' (show Hierarchy.findAll _ ["A"] = .ok [0] from rfl)
    (show Hierarchy.add _ "B" ["A"] [] = _ from rfl)
  have hC := IsBuilt.add hB (show Hierarchy.findAll _ ["A"] = .ok [0] from rfl)
    (show Hierarchy.add _ "C" ["A"] [] = _ from rfl)
  have hC' := IsBuilt.declare hC (show Hierarchy.declare _ .off [.text "p.c"] = _ from rfl)
  exact .add hC' (show Hierarchy.findAll _ ["B", "C"] = .ok [1, 2] from rfl)
    (show Hierarchy.add _ "D" ["B", "C"] [] = .ok diamond from rfl)

end SectionTimes.Flag

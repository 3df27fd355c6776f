import LandmarkMap.Geometry.Vec

set_option autoImplicit false

/-!
Matrices of a fixed shape, kept row by row. Every operation is given by its entries (`Mat.of`), and
`get_of` reads an entry back.
-/

namespace LandmarkMap

structure Mat (m n : Nat) (α : Type) where
  rows : Vector (Vector α n) m
deriving DecidableEq

namespace Mat

variable {α : Type} {m n k : Nat}

def of (f : Fin m → Fin n → α) : Mat m n α :=
  ⟨Vector.ofFn fun i => Vector.ofFn fun j => f i j⟩

def get (a : Mat m n α) (i : Fin m) (j : Fin n) : α := a.rows[i][j]

instance : CoeFun (Mat m n α) (fun _ => Fin m → Fin n → α) := ⟨get⟩

@[simp] theorem get_of (f : Fin m → Fin n → α) (i : Fin m) (j : Fin n) :
    (of f).get i j = f i j := by
  simp [of, get]

@[ext] theorem ext_get {a b : Mat m n α} (same : ∀ i j, a.get i j = b.get i j) : a = b := by
  cases a with
  | mk arows =>
    cases b with
    | mk brows =>
      congr 1
      apply Vector.ext
      intro i hi
      apply Vector.ext
      intro j hj
      exact same ⟨i, hi⟩ ⟨j, hj⟩

def transpose (a : Mat m n α) : Mat n m α := of fun i j => a j i

def stack {p : Nat} (a : Mat m n α) (b : Mat p n α) : Mat (m + p) n α := ⟨a.rows ++ b.rows⟩

def columns (first n : Nat) (a : Mat m (first + n) α) : Mat m n α :=
  of fun i j => a i (Fin.natAdd first j)

def entries (a : Mat m n α) : List α := a.rows.toList.flatMap (·.toList)

def column (v : Vector α m) : Mat m 1 α := of fun i _ => v[i]

variable [Scalar α]

def zero : Mat m n α := of fun _ _ => 0

def identity : Mat n n α := of fun i j => if i = j then 1 else 0

instance : Add (Mat m n α) := ⟨fun a b => of fun i j => a i j + b i j⟩

instance : Sub (Mat m n α) := ⟨fun a b => of fun i j => a i j - b i j⟩

instance : Neg (Mat m n α) := ⟨fun a => of fun i j => -a i j⟩

instance : HMul (Mat m k α) (Mat k n α) (Mat m n α) :=
  ⟨fun a b => of fun i j => sumFin k fun l => a i l * b l j⟩

def scale (a : Mat m n α) (s : α) : Mat m n α := of fun i j => a i j * s

def divide (a : Mat m n α) (s : α) : Mat m n α := of fun i j => a i j / s

def mulVec (a : Mat m n α) (v : Vector α n) : Vector α m :=
  Vector.ofFn fun i => sumFin n fun l => a i l * v[l]

def spaceRow (a : Mat m 3 α) (i : Fin m) : Vec3 α := Vec3.of (a i)

def planeRow (a : Mat m 2 α) (i : Fin m) : Vec2 α := Vec2.of (a i)

def act (a : Mat 3 3 α) (v : Vec3 α) : Vec3 α := Vec3.of fun i => (a.spaceRow i).dot v

def actPlane (a : Mat 3 2 α) (v : Vec2 α) : Vec3 α := Vec3.of fun i => (a.planeRow i).dot v

def amax (larger : α → α → α) (a : Mat m n α) : α :=
  match a.entries with
  | [] => 0
  | e :: rest => rest.foldl (fun top x => larger top (Scalar.abs x)) (Scalar.abs e)

end Mat

namespace Vec3

variable {α : Type}

def toColumn (v : Vec3 α) : Mat 3 1 α := Mat.of fun i _ => v.get i

variable [Scalar α]

def outer (a b : Vec3 α) : Mat 3 3 α := Mat.of fun i j => a.get i * b.get j

def skew (v : Vec3 α) : Mat 3 3 α :=
  ⟨#v[#v[0, -v.z, v.y], #v[v.z, 0, -v.x], #v[-v.y, v.x, 0]]⟩

end Vec3

end LandmarkMap

import Mathlib.Data.List.Basic

/-!
# Choosing the algorithms

Each side of a handshake proposes the algorithms it supports as names separated by commas.
The first name of the preferred proposition that also stands in the other and that is known
is chosen.  Whose proposition is preferred is given by an ordering that the two sides see
from opposite ends.
-/

namespace CkbP2P
namespace Secio

/-- Errors of the handshake. -/
inductive SecioError where
  | handshakeParsingFailure
  | connectSelf
  | noSupportIntersection
  | invalidProposition (message : String)
  deriving DecidableEq, Repr

/-! ### Algorithms -/

inductive KeyAgreement where
  | ecdhP256
  | ecdhP384
  | x25519
  deriving DecidableEq, Repr

inductive CipherType where
  | aes128Gcm
  | aes256Gcm
  | chaCha20Poly1305
  deriving DecidableEq, Repr

inductive Digest where
  | sha256
  | sha512
  deriving DecidableEq, Repr

def KeyAgreement.ofName : String → Option KeyAgreement
  | "P-256" => some .ecdhP256
  | "P-384" => some .ecdhP384
  | "X25519" => some .x25519
  | _ => none

def CipherType.ofName : String → Option CipherType
  | "AES-128-GCM" => some .aes128Gcm
  | "AES-256-GCM" => some .aes256Gcm
  | "CHACHA20_POLY1305" => some .chaCha20Poly1305
  | _ => none

def Digest.ofName : String → Option Digest
  | "SHA256" => some .sha256
  | "SHA512" => some .sha512
  | _ => none

def CipherType.keySize : CipherType → ℕ
  | .aes128Gcm => 16
  | .aes256Gcm => 32
  | .chaCha20Poly1305 => 32

def CipherType.ivSize : CipherType → ℕ
  | .aes128Gcm => 12
  | .aes256Gcm => 12
  | .chaCha20Poly1305 => 12

def Digest.numBytes : Digest → ℕ
  | .sha256 => 32
  | .sha512 => 64

def defaultAgreementsProposition : String := "P-256,P-384,X25519"

def defaultCiphersProposition : String := "AES-128-GCM,AES-256-GCM,CHACHA20_POLY1305"

def defaultDigestsProposition : String := "SHA256,SHA512"

/-! ### Selection -/

/-- The names of a proposition. -/
def names (proposition : String) : List String :=
  (proposition.toList.splitOn ',').map String.ofList

/-- The loop of the selections: the first name of `a` that is in `b` and known. -/
def firstCommon {α : Type} (ofName : String → Option α) (a b : String) : Option α :=
  (names a).findSome? fun x => if (names b).any (x == ·) then ofName x else none

/-- Select an algorithm; with `gt` our proposition is preferred, otherwise theirs. -/
def select {α : Type} (ofName : String → Option α) (r : Ordering) (ours theirs : String) :
    Except SecioError α :=
  let (a, b) := match r with
    | .lt | .eq => (theirs, ours)
    | .gt => (ours, theirs)
  match firstCommon ofName a b with
  | some x => .ok x
  | none => .error .noSupportIntersection

def selectAgreement (r : Ordering) (ours theirs : String) : Except SecioError KeyAgreement :=
  select KeyAgreement.ofName r ours theirs

def selectCipher (r : Ordering) (ours theirs : String) : Except SecioError CipherType :=
  select CipherType.ofName r ours theirs

def selectDigest (r : Ordering) (ours theirs : String) : Except SecioError Digest :=
  select Digest.ofName r ours theirs

example : selectAgreement .gt "P-384,P-256" defaultAgreementsProposition = .ok .ecdhP384 := by
  decide +kernel

/-- **The two sides choose alike**: seen from the other end, with the propositions and the
ordering exchanged, the choice is the same.  With equal hashes both sides would prefer the
other's proposition. -/
theorem select_swap {α : Type} (ofName : String → Option α) {r : Ordering} (hr : r ≠ .eq)
    (ours theirs : String) :
    select ofName r.swap theirs ours = select ofName r ours theirs := by
  cases r with
  | lt => rfl
  | eq => exact absurd rfl hr
  | gt => rfl

end Secio
end CkbP2P

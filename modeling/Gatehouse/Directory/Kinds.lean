import Gatehouse.Text.Quoted

/-!
# Kinds

The closed vocabularies of the directory. Each has one word per member, and a word outside it is an
error that names the vocabulary.
-/

namespace Gatehouse

/-- A finite list of members, each written as one word. -/
class Vocabulary (α : Type) where
  title : String
  all : List α
  word : α → String

namespace Vocabulary

def ofWord? {α : Type} [Vocabulary α] (s : String) : Option α :=
  (all : List α).find? fun a => word a == s

/-- What is said about a displayed value that is no word of the vocabulary. -/
def complaint (α : Type) [Vocabulary α] (shown : String) : String :=
  shown ++ " is not a valid " ++ title α

end Vocabulary

inductive UserStatus where
  | active | inactive | suspended | pending | deleted
  deriving DecidableEq, Repr, Inhabited

inductive GlobalRole where
  | superAdmin | superMember | customer
  deriving DecidableEq, Repr, Inhabited

inductive ProviderKind where
  | localPassword | google | facebook | github | apple | microsoft | linkedin | twitter
  deriving DecidableEq, Repr, Inhabited

inductive WorkspaceStatus where
  | active | inactive | suspended | deleted
  deriving DecidableEq, Repr, Inhabited

inductive MembershipStatus where
  | active | inactive | pending | rejected | suspended
  deriving DecidableEq, Repr, Inhabited

instance : Vocabulary UserStatus where
  title := "UserStatus"
  all := [.active, .inactive, .suspended, .pending, .deleted]
  word
    | .active => "active"
    | .inactive => "inactive"
    | .suspended => "suspended"
    | .pending => "pending"
    | .deleted => "deleted"

instance : Vocabulary GlobalRole where
  title := "GlobalRole"
  all := [.superAdmin, .superMember, .customer]
  word
    | .superAdmin => "super_admin"
    | .superMember => "super_member"
    | .customer => "customer"

instance : Vocabulary ProviderKind where
  title := "AuthProviderKind"
  all := [.localPassword, .google, .facebook, .github, .apple, .microsoft, .linkedin, .twitter]
  word
    | .localPassword => "local"
    | .google => "google"
    | .facebook => "facebook"
    | .github => "github"
    | .apple => "apple"
    | .microsoft => "microsoft"
    | .linkedin => "linkedin"
    | .twitter => "twitter"

instance : Vocabulary WorkspaceStatus where
  title := "WorkspaceStatus"
  all := [.active, .inactive, .suspended, .deleted]
  word
    | .active => "active"
    | .inactive => "inactive"
    | .suspended => "suspended"
    | .deleted => "deleted"

instance : Vocabulary MembershipStatus where
  title := "MembershipStatus"
  all := [.active, .inactive, .pending, .rejected, .suspended]
  word
    | .active => "active"
    | .inactive => "inactive"
    | .pending => "pending"
    | .rejected => "rejected"
    | .suspended => "suspended"

end Gatehouse

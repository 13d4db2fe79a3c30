/-! The names of the collections that documents are kept in. -/

namespace MailSearch.Collections

def users : String := "users"
def mailboxes : String := "mailboxes"
def messages : String := "messages"

end MailSearch.Collections

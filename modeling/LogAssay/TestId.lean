import LogAssay.Metadata.Basic

/-!
# Test ids

Tests that run at the same time are told apart by a test id, which every event of a test carries as metadata.
An event without one belongs to every test.
-/

namespace LogAssay.TestId

def key : String := "test_id"

/-- Whether an event belongs to a test: the test has no id, or the event carries none, or one of its ids is
that of the test. -/
def accepts (m : Metadata) (testId : String) : Bool :=
  testId == "" || !m.hasKey key || (m.values key).contains (.text testId)

end LogAssay.TestId

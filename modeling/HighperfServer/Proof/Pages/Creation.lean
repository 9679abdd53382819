import HighperfServer.Proof.Http.FormEncoding
import HighperfServer.Proof.Pages.Items
import HighperfServer.Proof.Server.Handlers

namespace HighperfServer
open Library

namespace Pages
open Routes

section Listing
variable {print : Template → Context → Except Str Str} {engine : TemplateEngine} {env : Env}
  {db : Database} {drawn : Nat}

end Listing

end Pages

end HighperfServer

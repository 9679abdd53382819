import HighperfServer.Library.Execution
import HighperfServer.Library.Table
import HighperfServer.Library.FirstMatch
import HighperfServer.Library.Bucket
import HighperfServer.Library.Activity
import HighperfServer.Library.Action
import HighperfServer.Library.Sync
import HighperfServer.Library.Text
import HighperfServer.Library.Utf8
import HighperfServer.Library.Exposition
import HighperfServer.Library.Url
import HighperfServer.Library.UnixPath
import HighperfServer.Library.FileTree
import HighperfServer.Library.Numeral
import HighperfServer.Library.Progress
import HighperfServer.Library.Reader
import HighperfServer.Library.Validation
import HighperfServer.Library.TemplateCheck
import HighperfServer.Library.TemplateRead
import HighperfServer.Construction.Config
import HighperfServer.Construction.IpList
import HighperfServer.Construction.Environment
import HighperfServer.Construction.Database
import HighperfServer.Construction.Models
import HighperfServer.Construction.Bootstrap
import HighperfServer.Construction.Session
import HighperfServer.Construction.Session.Schedule
import HighperfServer.Construction.Storage
import HighperfServer.Construction.Middleware.RateLimiter
import HighperfServer.Construction.Middleware.SharedLimiter
import HighperfServer.Construction.Middleware.Auth
import HighperfServer.Construction.Http.Request
import HighperfServer.Construction.Http.Response
import HighperfServer.Construction.Http.Router
import HighperfServer.Construction.Metrics
import HighperfServer.Construction.Proxy
import HighperfServer.Construction.StaticFiles
import HighperfServer.Construction.Templates
import HighperfServer.Construction.Pages
import HighperfServer.Construction.Server.AcceptLoop
import HighperfServer.Construction.Server.SelectLoop
import HighperfServer.Construction.Server.InnerService
import HighperfServer.Construction.Server.Stack
import HighperfServer.Construction.Server.Redirect
import HighperfServer.Construction.Server.Routes
import HighperfServer.Construction.Server.Lifecycle
import HighperfServer.Proof.Middleware.RateLimiter
import HighperfServer.Proof.Middleware.Admission
import HighperfServer.Proof.Middleware.Retention
import HighperfServer.Proof.Session.Statements
import HighperfServer.Proof.Session.Lifetime
import HighperfServer.Proof.Session.Schedule
import HighperfServer.Proof.Session.Logout
import HighperfServer.Proof.Session.Cookie
import HighperfServer.Proof.Storage
import HighperfServer.Proof.ItemOrder
import HighperfServer.Proof.Bootstrap
import HighperfServer.Proof.Http.Router
import HighperfServer.Proof.Http.Dispatch
import HighperfServer.Proof.Http.Substitution
import HighperfServer.Proof.Http.Forms
import HighperfServer.Proof.Http.PercentDecode
import HighperfServer.Proof.Http.FormEncoding
import HighperfServer.Proof.Http.Response
import HighperfServer.Proof.Server.Connections
import HighperfServer.Proof.Server.IpFilter
import HighperfServer.Proof.Server.Redirect
import HighperfServer.Proof.Server.AcceptLoop
import HighperfServer.Proof.Server.Wakeup
import HighperfServer.Proof.Server.SelectLoop
import HighperfServer.Proof.Server.InnerService
import HighperfServer.Proof.Server.BodyLimit
import HighperfServer.Proof.Server.Stack
import HighperfServer.Proof.Server.Accounting
import HighperfServer.Proof.Exposition
import HighperfServer.Proof.Server.RouteTable
import HighperfServer.Proof.Server.Authorisation
import HighperfServer.Proof.Proxy
import HighperfServer.Proof.Proxy.Relay
import HighperfServer.Proof.StaticFiles
import HighperfServer.Proof.StaticFiles.Classification
import HighperfServer.Proof.StaticFiles.Reachability
import HighperfServer.Proof.Address
import HighperfServer.Proof.Environment
import HighperfServer.Proof.Middleware.Linearisation
import HighperfServer.Proof.Server.Broadcast
import HighperfServer.Proof.Server.Drain
import HighperfServer.Proof.Pages
import HighperfServer.Proof.Pages.Creation
import HighperfServer.Proof.Server.Fibonacci

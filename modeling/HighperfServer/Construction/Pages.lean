import HighperfServer.Construction.Templates
import HighperfServer.Library.Template

namespace HighperfServer
open Library

namespace Pages
open Template

def stylesheet : Template :=
  literal [
    "    :root \x7b --ink:#e8eef9; --muted:#a8b5cc; --panel:#111b31; --line:#263754; ",
    "--brand:#6ee7d0; --accent:#8ba7ff; --danger:#ff8e98; \x7d\n",
    "    * \x7b box-sizing:border-box; \x7d body \x7b margin:0; color:var(--ink); ",
    "background:#08111f; font:16px/1.55 Inter, ui-sans-serif, system-ui, sans-serif; \x7d\n",
    "    .shell \x7b max-width:1120px; margin:auto; padding:0 24px 64px; \x7d nav \x7b ",
    "display:flex; align-items:center; justify-content:space-between; gap:20px; ",
    "padding:20px 0; border-bottom:1px solid var(--line); \x7d\n",
    "    .brand \x7b color:var(--ink); font-weight:800; letter-spacing:-.04em; ",
    "text-decoration:none; \x7d .brand i \x7b color:var(--brand); font-style:normal; \x7d ",
    ".links \x7b display:flex; flex-wrap:wrap; align-items:center; gap:18px; \x7d\n",
    "    a \x7b color:var(--brand); \x7d .links a \x7b color:var(--muted); ",
    "text-decoration:none; \x7d .links a:hover \x7b color:var(--ink); \x7d .user \x7b ",
    "color:var(--muted); font-size:.9rem; \x7d\n",
    "    h1 \x7b letter-spacing:-.055em; font-size:clamp(2.4rem,7vw,5.2rem); line-height:1;",
    " margin:.2em 0; \x7d h2 \x7b letter-spacing:-.035em; \x7d p \x7b color:var(--muted); ",
    "\x7d code \x7b color:#cad6ff; \x7d\n",
    "    .flash \x7b padding:.75rem 1rem; border-radius:8px; margin:1rem 0; ",
    "background:#183953; color:#b8f1ff; \x7d .flash.error \x7b background:#4b202d; ",
    "color:#ffd1d6; \x7d\n",
    "    .button, button \x7b display:inline-block; padding:.7rem 1rem; border:1px solid ",
    "transparent; border-radius:8px; background:var(--brand); color:#05221f; ",
    "font-weight:700; text-decoration:none; cursor:pointer; \x7d\n",
    "    .button.secondary \x7b background:transparent; color:var(--ink); ",
    "border-color:var(--line); \x7d input \x7b width:100%; padding:.7rem .8rem; ",
    "color:var(--ink); background:#0d1729; border:1px solid var(--line); border-radius:7px;",
    " \x7d\n",
    "    .card \x7b padding:1.4rem; background:linear-gradient(145deg,#14213a,#0d1729); ",
    "border:1px solid var(--line); border-radius:12px; \x7d .grid \x7b display:grid; ",
    "grid-template-columns:repeat(auto-fit,minmax(220px,1fr)); gap:14px; \x7d\n",
    "    table \x7b width:100%; border-collapse:collapse; \x7d th,td \x7b padding:.75rem; ",
    "border-bottom:1px solid var(--line); text-align:left; \x7d th \x7b color:var(--muted);",
    " font-size:.82rem; text-transform:uppercase; \x7d\n",
    "    .eyebrow \x7b color:var(--brand); font-size:.8rem; font-weight:800; ",
    "letter-spacing:.11em; text-transform:uppercase; \x7d .section \x7b margin-top:72px; ",
    "\x7d .muted \x7b color:var(--muted); \x7d\n",
    "    @media (max-width:640px) \x7b nav \x7b align-items:flex-start; ",
    "flex-direction:column; \x7d .shell \x7b padding-inline:18px; \x7d \x7d\n"]

def navigation : Template :=
  .choose (.named "session_user")
    (.all [
      literal ["<span class=\"user\">Signed in as "],
      .output (.named "session_user") none,
      literal [
        "</span><form method=\"POST\" action=\"/ui/logout\" style=\"display:inline\">",
        "<input type=\"hidden\" name=\"_csrf\" value=\""],
      .output (.named "csrf_token") none,
      literal [
        "\"><button style=\"padding:0;background:transparent;color:var(--muted);",
        "font-weight:400\">Log out</button></form>"]])
    (literal ["<a href=\"/ui/login\">Sign in</a>"])

def flashMessage : Template :=
  .choose (.named "flash")
    (.all [
      literal ["<div class=\"flash "],
      .output (.named "flash_type") (some "success".toList),
      literal ["\">"],
      .output (.named "flash") none,
      literal ["</div>"]])
    .empty

/-- The layout of every page, `base.html`, with its two blocks. -/
def layout (title content : Template) : Template :=
  .all [
    literal [
      "<!doctype html>\n",
      "<html lang=\"en\">\n",
      "<head>\n",
      "  <meta charset=\"utf-8\">\n",
      "  <meta name=\"viewport\" content=\"width=device-width, initial-scale=1\">\n",
      "  <meta name=\"description\" content=\"A Rust HTTP server with secure defaults, ",
      "observability, and reverse-proxy support.\">\n",
      "  <title>"],
    .block "title".toList title,
    literal ["</title>\n", "  <style>\n"],
    stylesheet,
    literal [
      "  </style>\n",
      "</head>\n",
      "<body>\n",
      "  <div class=\"shell\">\n",
      "    <nav>\n",
      "      <a class=\"brand\" href=\"/ui/index\">thread<i>line</i></a>\n",
      "      <div class=\"links\">\n",
      "        <a href=\"/ui/index\">Overview</a><a href=\"/ui/items\">Demo data</a>",
      "<a href=\"/ui/metrics\">Metrics</a>\n",
      "        "],
    navigation,
    literal [
      "\n",
      "      </div>\n",
      "    </nav>\n",
      "    "],
    flashMessage,
    literal [
      "\n",
      "    "],
    .block "content".toList content,
    literal [
      "\n",
      "  </div>\n",
      "</body>\n",
      "</html>\n"]]

def base : Template := layout (literal ["Threadline — Rust server"]) .empty

/-- A page extends the layout with its two blocks. -/
def extending (title content : Template) : Template :=
  base.override [("title".toList, title), ("content".toList, content)]

def indexTitle : Template :=
  literal ["Threadline — secure Rust HTTP server"]

def indexContent : Template :=
  literal [
    "\n",
    "<main>\n",
    "  <section style=\"padding:84px 0 42px;max-width:850px\">\n",
    "    <p class=\"eyebrow\">Rust HTTP/HTTPS server</p>\n",
    "    <h1>Build fast services.<br><span style=\"color:var(--brand)\">Keep the guardrails.",
    "</span></h1>\n",
    "    <p style=\"font-size:1.2rem;max-width:710px\">Threadline is a practical server ",
    "foundation for internal APIs, edge services, admin tools, and lightweight reverse ",
    "proxies—where predictable concurrency, TLS, metrics, and sane security matter.</p>\n",
    "    <p style=\"display:flex;gap:10px;flex-wrap:wrap;margin-top:28px\">",
    "<a class=\"button\" href=\"/ui/items\">Try the UI demo</a>",
    "<a class=\"button secondary\" href=\"/metrics\">View Prometheus metrics</a></p>\n",
    "  </section>\n",
    "  <section class=\"grid\">\n",
    "    <article class=\"card\"><p class=\"eyebrow\">Where it fits</p><h2>Service edge</h2>",
    "<p>Terminate TLS, set backpressure, limit abusive clients, and proxy unmatched paths to ",
    "an upstream application.</p></article>\n",
    "    <article class=\"card\"><p class=\"eyebrow\">Where it fits</p><h2>API platform</h2>",
    "<p>Serve JSON CRUD APIs with JWT auth, SQLite or PostgreSQL persistence, and HTTP/2 ",
    "support.</p></article>\n",
    "    <article class=\"card\"><p class=\"eyebrow\">Where it fits</p><h2>Operations demo",
    "</h2><p>Show a complete Rust web stack: templates, database sessions, CSRF-protected ",
    "forms, and live metrics.</p></article>\n",
    "  </section>\n",
    "  <section class=\"section\"><p class=\"eyebrow\">Request lifecycle</p><h2>One request, ",
    "observable end to end</h2>\n",
    "    <div class=\"card\" style=\"overflow:auto\">",
    "<div style=\"display:flex;min-width:720px;align-items:stretch;gap:10px;",
    "text-align:center;font-weight:700\"><div style=\"flex:1\">Client<br>",
    "<small class=\"muted\">HTTP/1.1 or h2</small></div><div>→</div><div style=\"flex:1\">",
    "TLS + IP filter<br><small class=\"muted\">early rejection</small></div><div>→</div>",
    "<div style=\"flex:1\">Rate + concurrency<br><small class=\"muted\">429 / 503</small>",
    "</div><div>→</div><div style=\"flex:1\">Router<br><small class=\"muted\">API, UI, ",
    "static, proxy</small></div><div>→</div><div style=\"flex:1\">Metrics + logs<br>",
    "<small class=\"muted\">Prometheus / tracing</small></div></div></div>\n",
    "  </section>\n",
    "  <section class=\"section\"><p class=\"eyebrow\">Why use it</p><div class=\"grid\">",
    "<article class=\"card\"><h2>Protocol without lock-in</h2><p>Hyper and Tokio provide ",
    "async I/O; rustls avoids an OpenSSL runtime dependency.</p></article>",
    "<article class=\"card\"><h2>Protection by default</h2><p>Body limits, per-IP rate ",
    "limiting, global concurrency limits, secure cookie attributes, and CSRF checks are ",
    "built into the request path.</p></article><article class=\"card\"><h2>Ready to inspect",
    "</h2><p>Structured logs, request IDs, and Prometheus-compatible counters make behavior ",
    "visible in production.</p></article></div></section>\n",
    "</main>\n"]

def loginTitle : Template :=
  literal ["Login — rust-highperf-server"]

def loginContent : Template :=
  literal [
    "\n",
    "<h1>Login</h1>\n",
    "<form method=\"POST\" action=\"/ui/login\">\n",
    "  <div>\n",
    "    <label>Username<br>\n",
    "      <input type=\"text\" name=\"username\" required autofocus>\n",
    "    </label>\n",
    "  </div>\n",
    "  <div>\n",
    "    <label>Password<br>\n",
    "      <input type=\"password\" name=\"password\" required>\n",
    "    </label>\n",
    "  </div>\n",
    "  <div>\n",
    "    <button type=\"submit\">Login</button>\n",
    "  </div>\n",
    "</form>\n"]

def itemsTitle : Template :=
  literal ["Items — rust-highperf-server"]

def createForm : Template :=
  .choose (.named "session_user")
    (.all [
      literal [
        "\n",
        "<form method=\"POST\" action=\"/ui/items\">\n",
        "  <input type=\"hidden\" name=\"_csrf\" value=\""],
      .output (.named "csrf_token") none,
      literal [
        "\">\n",
        "  <h2>Create Item</h2>\n",
        "  <div>\n",
        "    <label>Name<br><input type=\"text\" name=\"name\" required></label>\n",
        "  </div>\n",
        "  <div>\n",
        "    <label>Description<br><input type=\"text\" name=\"description\" required>",
        "</label>\n",
        "  </div>\n",
        "  <button type=\"submit\">Create</button>\n",
        "</form>\n",
        "<hr>\n"]])
    .empty

def itemActions : Template :=
  .choose (.named "session_user")
    (.all [
      literal [
        "\n",
        "      <td>\n",
        "        <form method=\"POST\" action=\"/ui/items/"],
      .output (.member "item" "id") none,
      literal [
        "/delete\" style=\"display:inline\">\n",
        "          <input type=\"hidden\" name=\"_csrf\" value=\""],
      .output (.named "csrf_token") none,
      literal [
        "\">\n",
        "          <button type=\"submit\" onclick=\"return confirm('Delete this ",
        "item?')\">Delete</button>\n",
        "        </form>\n",
        "      </td>\n",
        "      "]])
    .empty

def itemRow : Template :=
  .all [
    literal [
      "\n",
      "    <tr>\n",
      "      <td>"],
    .output (.member "item" "name") none,
    literal [
      "</td>\n",
      "      <td>"],
    .output (.member "item" "description") none,
    literal [
      "</td>\n",
      "      <td><code>"],
    .output (.member "item" "id") none,
    literal [
      "</code></td>\n",
      "      "],
    itemActions,
    literal [
      "\n",
      "    </tr>\n",
      "  "]]

def itemTable : Template :=
  .choose (.named "items")
    (.all [
      literal [
        "\n",
        "<table>\n",
        "  <thead><tr><th>Name</th><th>Description</th><th>ID</th>"],
      .choose (.named "session_user")
        (literal ["<th>Actions</th>"])
        .empty,
      literal [
        "</tr></thead>\n",
        "  <tbody>\n",
        "  "],
      .each "item".toList (.named "items") itemRow,
      literal [
        "\n",
        "  </tbody>\n",
        "</table>\n"]])
    (.all [
      literal [
        "\n",
        "<p>No items yet. "],
      .choose (.named "session_user")
        (literal ["Create one above."])
        (literal ["<a href=\"/ui/login\">Login</a> to create items."]),
      literal ["</p>\n"]])

def itemsContent : Template :=
  .all [
    literal [
      "\n",
      "<h1>Items</h1>\n"],
    createForm,
    literal [
      "\n",
      "<h2>All Items</h2>\n"],
    itemTable,
    literal ["\n"]]

def metricsTitle : Template :=
  literal ["Server Metrics"]

def metricsContent : Template :=
  .all [
    literal [
      "\n",
      "<h1>Server Metrics</h1>\n",
      "<table>\n",
      "  <thead><tr><th>Metric</th><th>Value</th></tr></thead>\n",
      "  <tbody>\n",
      "    <tr><td>Requests (total)</td><td>"],
    .output (.named "requests_total") none,
    literal [
      "</td></tr>\n",
      "    <tr><td>Requests (active)</td><td>"],
    .output (.named "requests_active") none,
    literal [
      "</td></tr>\n",
      "    <tr><td>Responses 2xx</td><td>"],
    .output (.named "responses_2xx") none,
    literal [
      "</td></tr>\n",
      "    <tr><td>Responses 4xx</td><td>"],
    .output (.named "responses_4xx") none,
    literal [
      "</td></tr>\n",
      "    <tr><td>Responses 5xx</td><td>"],
    .output (.named "responses_5xx") none,
    literal [
      "</td></tr>\n",
      "    <tr><td>Rate limited (429)</td><td>"],
    .output (.named "rate_limited") none,
    literal [
      "</td></tr>\n",
      "    <tr><td>Concurrency limited (503)</td><td>"],
    .output (.named "concurrency_limited") none,
    literal [
      "</td></tr>\n",
      "    <tr><td>Timed out</td><td>"],
    .output (.named "timed_out") none,
    literal [
      "</td></tr>\n",
      "    <tr><td>Connections accepted</td><td>"],
    .output (.named "connections_accepted") none,
    literal [
      "</td></tr>\n",
      "    <tr><td>Connections rejected (IP)</td><td>"],
    .output (.named "connections_rejected_ip") none,
    literal [
      "</td></tr>\n",
      "  </tbody>\n",
      "</table>\n",
      "<p><small>Raw Prometheus format: <a href=\"/metrics\">/metrics</a></small></p>\n"]]

/-- The compiled templates of the directory. -/
def templates : List (Str × Template) :=
  [("base.html".toList, base), ("index.html".toList, extending indexTitle indexContent),
    ("login.html".toList, extending loginTitle loginContent),
    ("items.html".toList, extending itemsTitle itemsContent),
    ("metrics.html".toList, extending metricsTitle metricsContent)]

end Pages

end HighperfServer

import StageZero.Text

/-!
# The playground page

The one page of the playground: a form for a source text, and a script that
sends it to be compiled and shows the answer.
-/

namespace StageZero.Web

def pageLines : List String :=
  ["<!DOCTYPE html>",
    "<html lang=\"en\">",
    "<head>",
    "<meta charset=\"utf-8\">",
    "<title>WeaR Lang Playground</title>",
    "<style>",
    "  body \x7b font-family: sans-serif; margin: 2em; \x7d",
    "  textarea, pre \x7b width: 100%; box-sizing: border-box; font-family: monospace; \x7d",
    "  textarea \x7b height: 14em; \x7d",
    "  pre \x7b background: #f4f4f4; padding: 1em; min-height: 6em; overflow: auto; \x7d",
    "  .error \x7b color: #b00020; \x7d",
    "</style>",
    "</head>",
    "<body>",
    "<h1>WeaR Lang &rarr; C</h1>",
    "<textarea id=\"source\">var nama = \"Dunia\"",
    "cetak \"Halo, \" + nama + \"!\"",
    "var i = 0",
    "selama (i < 3) \x7b",
    "    cetak i",
    "    i = i + 1",
    "\x7d</textarea>",
    "<p>",
    "  <label><input type=\"checkbox\" id=\"debug\"> debug</label>",
    "  <button id=\"translate\">Translate</button>",
    "</p>",
    "<pre id=\"errors\" class=\"error\"></pre>",
    "<pre id=\"output\"></pre>",
    "<script>",
    "document.getElementById('translate').addEventListener('click', async () => \x7b",
    "  const response = await fetch('/translate', \x7b",
    "    method: 'POST',",
    "    headers: \x7b'Content-Type': 'application/json'\x7d,",
    "    body: JSON.stringify(\x7b",
    "      source: document.getElementById('source').value,",
    "      debug: document.getElementById('debug').checked",
    "    \x7d)",
    "  \x7d);",
    "  const data = await response.json();",
    "  document.getElementById('errors').textContent =",
    "    (data.errors || []).map(e => `[$\x7be.code\x7d] " ++
      "line $\x7be.line\x7d, col $\x7be.column\x7d: $\x7be.message\x7d\\n$\x7be.pointer\x7d`).join('\\n');",
    "  document.getElementById('output').textContent =",
    "    data.c_code + (data.debug_output ? '\\n\\n' + data.debug_output : '');",
    "\x7d);",
    "</script>",
    "</body>",
    "</html>"]

def page : String :=
  Text.concat (pageLines.map (· ++ "\n"))

end StageZero.Web

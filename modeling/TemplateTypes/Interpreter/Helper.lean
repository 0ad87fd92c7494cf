import TemplateTypes.Text.Basic

/-!
# The helper program

What the interpreter runs: it reads the source on its standard input, looks at the cursor given by
its arguments, and prints a JSON list.  An exception goes to standard error and makes the exit
status 1.
-/

namespace TemplateTypes.Interpreter

def helperLines : List String := [
  "",
  "import json",
  "import sys",
  "import traceback",
  "",
  "",
  "def _text(value):",
  "    return \"\" if value is None else str(value)",
  "",
  "",
  "def _default(param):",
  "    getter = getattr(param, \"get_default\", None)",
  "    value = getter() if callable(getter) else None",
  "    return None if value is None else str(value)",
  "",
  "",
  "def _annotation(param):",
  "    getter = getattr(param, \"annotation_string\", None)",
  "    return _text(getter() if callable(getter) else None)",
  "",
  "",
  "def main():",
  "    try:",
  "        import jedi",
  "",
  "        mode, path = sys.argv[1], sys.argv[2]",
  "        line, column = int(sys.argv[3]), int(sys.argv[4])",
  "        script = jedi.Script(sys.stdin.read(), path=path)",
  "        out = []",
  "        if mode == \"signature\":",
  "            signatures = script.get_signatures(line, column)",
  "            if signatures:",
  "                sig = signatures[0]",
  "                for param in sig.params:",
  "                    out.append(",
  "                        \x7b",
  "                            \"name\": param.name,",
  "                            \"kind\": _text(getattr(param, \"kind\", \"\")),",
  "                            \"default\": _default(param),",
  "                            \"annotation\": _annotation(param),",
  "                            \"docstring\": sig.docstring(),",
  "                        \x7d",
  "                    )",
  "        else:",
  "            for c in script.complete(line, column):",
  "                out.append(\x7b\"name\": c.name, \"type\": c.type, " ++
    "\"docstring\": c.docstring()\x7d)",
  "        print(json.dumps(out))",
  "    except Exception:",
  "        print(\"JEDI_ERROR:\" + traceback.format_exc(), file=sys.stderr)",
  "        sys.exit(1)",
  "",
  "",
  "main()",
  ""]

def helper : Text :=
  Text.join ['\n'] (helperLines.map String.toList)

end TemplateTypes.Interpreter

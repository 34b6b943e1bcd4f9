/-!
The script that runs a submitted script. It loads the submission into a fresh namespace, calls the
function that is named after the task with one argument for each relation, and writes the result.
-/

namespace SolutionCheck.Interpreter

def loaderLines : List String :=
  ["import json",
    "import math",
    "import sys",
    "",
    "",
    "def _plain(value):",
    "    if hasattr(value, \"item\") and getattr(value, \"ndim\", 1) == 0:",
    "        value = value.item()",
    "    elif hasattr(value, \"tolist\") and not isinstance(value, (str, bytes)):",
    "        value = value.tolist()",
    "    if isinstance(value, float) and math.isnan(value):",
    "        return None",
    "    if isinstance(value, float) and math.isinf(value):",
    "        return \x7b\"$float\": \"inf\" if value > 0 else \"-inf\"\x7d",
    "    if isinstance(value, dict):",
    "        return \x7bstr(k): _plain(v) for k, v in value.items()\x7d",
    "    if isinstance(value, (list, tuple, set, frozenset)):",
    "        return [_plain(v) for v in value]",
    "    if value is None or isinstance(value, (bool, int, float, str)):",
    "        return value",
    "    return str(value)",
    "",
    "",
    "def _encode(result):",
    "    if hasattr(result, \"columns\") and hasattr(result, \"itertuples\"):",
    "        return \x7b",
    "            \"kind\": \"table\",",
    "            \"columns\": [str(c) for c in result.columns],",
    "            \"rows\": [[_plain(c) for c in row] for row in result.itertuples(index=False, name=None)],",
    "        \x7d",
    "    if hasattr(result, \"to_list\") and hasattr(result, \"index\"):",
    "        return \x7b\"kind\": \"value\", \"value\": _plain(result.to_list())\x7d",
    "    return \x7b\"kind\": \"value\", \"value\": _plain(result)\x7d",
    "",
    "",
    "def main():",
    "    with open(\"input.json\") as f:",
    "        request = json.load(f)",
    "    with open(request[\"program\"]) as f:",
    "        code = compile(f.read(), request[\"program\"], \"exec\")",
    "    namespace = \x7b\"__name__\": \"__snippet__\"\x7d",
    "    exec(code, namespace)",
    "",
    "    func = namespace.get(request[\"task\"])",
    "    if not callable(func):",
    "        sys.stderr.write(\"no function named %r is defined\\n\" % request[\"task\"])",
    "        sys.exit(2)",
    "",
    "    kwargs = \x7b\x7d",
    "    for name, rel in request[\"relations\"].items():",
    "        if request[\"tabular\"]:",
    "            import pandas as pd",
    "            kwargs[name] = pd.DataFrame(rel[\"records\"], columns=rel[\"columns\"])",
    "        else:",
    "            kwargs[name] = rel[\"records\"]",
    "",
    "    with open(\"output.json\", \"w\") as f:",
    "        json.dump(_encode(func(**kwargs)), f, allow_nan=False)",
    "",
    "",
    "main()"]

def loader : String := String.join (loaderLines.map (· ++ "\n"))

end SolutionCheck.Interpreter

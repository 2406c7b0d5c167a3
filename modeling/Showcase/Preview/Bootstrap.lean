/-!
# Constant parts of the runtime document

The style sheets of a runtime document and the script that starts the component in it, as lines. The script waits for
the runtime, compiles the code that is given in the document, mounts the component and publishes how far it got; what
fails is shown in a panel.
-/

namespace Showcase.Preview

/-- The style of the panel that shows an error. -/
def panelStyleLines : List String :=
  ["",
    ".preview-error \x7b padding: 20px; margin: 20px; background: #fee; border: 1px solid #fcc; border-radius: 8px; font-family: sans-serif; \x7d",
    ".preview-error h3 \x7b color: #c00; margin: 0 0 10px 0; \x7d",
    ".preview-error p \x7b margin: 0; color: #600; font-family: monospace; font-size: 12px; \x7d",
    ".preview-error pre \x7b margin: 10px 0 0 0; padding: 10px; background: #fff5f5; color: #333; font-size: 11px; white-space: pre-wrap; overflow: auto; \x7d",
    ".preview-error .hint \x7b margin-top: 10px; color: #666; font-family: sans-serif; \x7d",
    ""]

/-- The style of every runtime document. -/
def baseStyleLines : List String :=
  ["",
    "body \x7b",
    "    margin: 0;",
    "    padding: 0;",
    "    font-family: -apple-system, BlinkMacSystemFont, 'Segoe UI', 'Roboto', 'Helvetica Neue', sans-serif;",
    "    -webkit-font-smoothing: antialiased;",
    "    -moz-osx-font-smoothing: grayscale;",
    "\x7d",
    "* \x7b box-sizing: border-box; \x7d",
    ""]

/-- The script that starts the component. -/
def bootstrapLines : List String :=
  ["",
    "(function () \x7b",
    "    var config = JSON.parse(document.getElementById('component-config').textContent);",
    "    var root = document.getElementById('root');",
    "",
    "    function publish(state, error) \x7b",
    "        window.__componentPreview = \x7b state: state, error: error || null \x7d;",
    "        try \x7b",
    "            window.parent.postMessage(\x7b source: 'component-preview', state: state, error: error || null \x7d, '*');",
    "        \x7d catch (e) \x7b\x7d",
    "    \x7d",
    "",
    "    function escapeHtml(value) \x7b",
    "        return String(value == null ? '' : value).replace(/[&<>\"']/g, function (c) \x7b",
    "            return \x7b '&': '&amp;', '<': '&lt;', '>': '&gt;', '\"': '&quot;', \"'\": '&#39;' \x7d[c];",
    "        \x7d);",
    "    \x7d",
    "",
    "    function showError(error) \x7b",
    "        root.innerHTML =",
    "            '<div class=\"preview-error\">' +",
    "            '<h3>' + escapeHtml(error.title) + '</h3>' +",
    "            '<p>' + escapeHtml(error.message) + '</p>' +",
    "            (error.stack ? '<pre>' + escapeHtml(error.stack) + '</pre>' : '') +",
    "            '<p class=\"hint\">The component may use features not supported in preview mode.</p>' +",
    "            '</div>';",
    "        publish('errored', error);",
    "    \x7d",
    "",
    "    function compileError(err) \x7b",
    "        return \x7b",
    "            kind: 'compile_error',",
    "            title: 'Preview Error',",
    "            message: err && err.message ? err.message : String(err),",
    "            stack: err && err.stack ? String(err.stack) : null",
    "        \x7d;",
    "    \x7d",
    "",
    "    function runtimeReady() \x7b",
    "        return Boolean(window.React && window.ReactDOM && window.Motion);",
    "    \x7d",
    "",
    "    function mount() \x7b",
    "        publish('compiling');",
    "        window.addEventListener('error', function (event) \x7b",
    "            showError(compileError(event.error || event.message));",
    "        \x7d);",
    "        try \x7b",
    "            var code = config.code;",
    "            if (window.Babel) \x7b",
    "                code = window.Babel.transform(code, \x7b",
    "                    filename: 'component.tsx',",
    "                    presets: ['react', ['typescript', \x7b isTSX: true, allExtensions: true \x7d]]",
    "                \x7d).code;",
    "            \x7d",
    "            var R = window.React;",
    "            var M = window.Motion;",
    "            var factory = new Function(",
    "                'React', 'useState', 'useEffect', 'useRef', 'useCallback', 'useMemo',",
    "                'motion', 'AnimatePresence', 'useScroll', 'useTransform',",
    "                code + '\\nreturn ' + config.name + ';'",
    "            );",
    "            var Component = factory(",
    "                R, R.useState, R.useEffect, R.useRef, R.useCallback, R.useMemo,",
    "                M.motion, M.AnimatePresence, M.useScroll, M.useTransform",
    "            );",
    "            window.ReactDOM.createRoot(root).render(R.createElement(Component));",
    "            publish('rendered');",
    "        \x7d catch (err) \x7b",
    "            console.error('Preview error:', err);",
    "            showError(compileError(err));",
    "        \x7d",
    "    \x7d",
    "",
    "    var attempts = 0;",
    "    function poll() \x7b",
    "        if (runtimeReady()) \x7b",
    "            mount();",
    "            return;",
    "        \x7d",
    "        attempts += 1;",
    "        if (attempts >= config.maxAttempts) \x7b",
    "            showError(\x7b",
    "                kind: 'runtime_timeout',",
    "                title: 'Runtime did not load',",
    "                message: 'React, ReactDOM or Framer Motion were not available after ' +",
    "                    (config.maxAttempts * config.pollInterval) + 'ms.',",
    "                stack: null",
    "            \x7d);",
    "            return;",
    "        \x7d",
    "        setTimeout(poll, config.pollInterval);",
    "    \x7d",
    "",
    "    publish('waiting');",
    "    poll();",
    "\x7d)();",
    ""]

/-- Lines as one text. -/
def joinLines (lines : List String) : String := "\n".intercalate lines

/-- The style of the panel that shows an error. -/
def panelStyle : String := joinLines panelStyleLines

/-- The style of every runtime document. -/
def baseStyle : String := joinLines baseStyleLines

/-- The script that starts the component. -/
def bootstrapScript : String := joinLines bootstrapLines

end Showcase.Preview

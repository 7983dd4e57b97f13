namespace ClientScript.Opcode

-- The display names of the operations that remain in a structured script, by code.
def registry : List (Nat × String) := [
  (7, "branch_not"), (8, "branch_equals"), (9, "branch_less_than"), (10, "branch_greater_than"),
  (31, "branch_less_than_or_equals"), (32, "branch_greater_than_or_equals"), (37, "join_string"),
  (40, "gosub_with_params"), (44, "define_array"), (45, "push_array_int"), (46, "pop_array_int"),
  (100, "cc_create"), (101, "cc_delete"), (102, "cc_deleteall"), (200, "cc_find"),
  (201, "if_find"), (1000, "cc_setposition"), (1001, "cc_setsize"), (1003, "cc_sethide"),
  (1005, "cc_setnoclickthrough"), (1006, "_1006"), (1100, "cc_setscrollpos"),
  (1101, "cc_setcolour"), (1102, "cc_setfill"), (1103, "cc_settrans"), (1104, "cc_setlinewid"),
  (1105, "cc_setgraphic"), (1106, "cc_set2dangle"), (1107, "cc_settiling"), (1108, "cc_setmodel"),
  (1109, "cc_setmodelangle"), (1110, "cc_setmodelanim"), (1111, "cc_setmodelorthog"),
  (1112, "cc_settext"), (1113, "cc_settextfont"), (1114, "cc_settextalign"),
  (1115, "cc_settextshadow"), (1116, "cc_setoutline"), (1117, "cc_setgraphicshadow"),
  (1118, "cc_setvflip"), (1119, "cc_sethflip"), (1120, "cc_setscrollsize"),
  (1121, "cc_resume_pausebutton"), (1122, "_1122"), (1123, "cc_setfillcolour"), (1124, "_1124"),
  (1125, "_1125"), (1126, "cc_setlinedirection"), (1127, "_1127"), (1200, "cc_setobject"),
  (1201, "cc_setnpchead"), (1202, "cc_setplayerhead_self"), (1205, "cc_setobject_nonum"),
  (1212, "cc_setobject_always_num"), (1300, "cc_setop"), (1301, "cc_setdraggable"),
  (1302, "cc_setdraggablebehavior"), (1303, "cc_setdragdeadzone"), (1304, "cc_setdragdeadtime"),
  (1305, "cc_setopbase"), (1306, "cc_settargetverb"), (1307, "cc_clearops"), (1350, "cc_setopkey"),
  (1351, "cc_setoptkey"), (1352, "cc_setopkeyrate"), (1353, "cc_setoptkeyrate"),
  (1354, "cc_setopkeyignoreheld"), (1355, "cc_setoptkeyignoreheld"), (1400, "cc_setonclick"),
  (1401, "cc_setonhold"), (1402, "cc_setonrelease"), (1403, "cc_setonmouseover"),
  (1404, "cc_setonmouseleave"), (1405, "cc_setondrag"), (1406, "cc_setontargetleave"),
  (1407, "cc_setonvartransmit"), (1408, "cc_setontimer"), (1409, "cc_setonop"),
  (1410, "cc_setondragcomplete"), (1411, "cc_setonclickrepeat"), (1412, "cc_setonmouserepeat"),
  (1414, "cc_setoninvtransmit"), (1415, "cc_setonstattransmit"), (1416, "cc_setontargetenter"),
  (1417, "cc_setonscrollwheel"), (1418, "cc_setonchattransmit"), (1419, "cc_setonkey"),
  (1420, "cc_setonfriendtransmit"), (1421, "cc_setonclantransmit"), (1422, "cc_setonmisctransmit"),
  (1423, "cc_setondialogabort"), (1424, "cc_setonsubchange"), (1425, "cc_setonstocktransmit"),
  (1426, "cc_setonresize"), (1500, "cc_getx"), (1501, "cc_gety"), (1502, "cc_getwidth"),
  (1503, "cc_getheight"), (1504, "cc_gethide"), (1505, "cc_getlayer"), (1600, "cc_getscrollx"),
  (1601, "cc_getscrolly"), (1602, "cc_gettext"), (1603, "cc_getscrollwidth"),
  (1604, "cc_getscrollheight"), (1605, "cc_getmodelzoom"), (1606, "cc_getmodelangle_x"),
  (1607, "cc_getmodelangle_z"), (1608, "cc_getmodelangle_y"), (1609, "cc_gettrans"),
  (1610, "_1610"), (1611, "cc_getcolour"), (1612, "cc_getfillcolour"), (1613, "_1613"),
  (1614, "_1614"), (1700, "cc_getinvobject"), (1701, "cc_getinvcount"), (1702, "cc_getid"),
  (1800, "cc_gettargetmask"), (1801, "cc_getop"), (1802, "cc_getopbase"),
  (1927, "if_callonresize"), (2000, "if_setposition"), (2001, "if_setsize"), (2003, "if_sethide"),
  (2101, "if_setcolour"), (2105, "if_setgraphic"), (2112, "if_settext"), (2400, "if_setonclick"),
  (2401, "if_setonhold"), (2402, "if_setonrelease"), (2403, "if_setonmouseover"),
  (2404, "if_setonmouseleave"), (2405, "if_setondrag"), (2406, "if_setontargetleave"),
  (2407, "if_setonvartransmit"), (2408, "if_setontimer"), (2409, "if_setonop"),
  (2410, "if_setondragcomplete"), (2411, "if_setonclickrepeat"), (2412, "if_setonmouserepeat"),
  (2414, "if_setoninvtransmit"), (2415, "if_setonstattransmit"), (2416, "if_setontargetenter"),
  (2417, "if_setonscrollwheel"), (2418, "if_setonchattransmit"), (2419, "if_setonkey"),
  (2420, "if_setonfriendtransmit"), (2421, "if_setonclantransmit"), (2422, "if_setonmisctransmit"),
  (2423, "if_setondialogabort"), (2424, "if_setonsubchange"), (2425, "if_setonstocktransmit"),
  (2426, "if_setonresize"), (2500, "if_getx"), (2501, "if_gety"), (2502, "if_getwidth"),
  (2503, "if_getheight"), (3100, "mes"), (3101, "anim"), (3103, "if_close"),
  (3104, "resume_countdialog"), (3139, "cc_dragpickup"), (3140, "_3140"), (3200, "sound_synth"),
  (3300, "clientclock"), (3301, "inv_getobj"), (3302, "inv_getnum"), (3303, "inv_total"),
  (3305, "stat"), (3306, "stat_base"), (3308, "coord"), (3309, "coordx"), (3310, "coordy"),
  (3311, "coordz"), (3400, "enum_string"), (3408, "enum"), (4000, "add"), (4001, "sub"),
  (4002, "multiply"), (4003, "div"), (4004, "random"), (4005, "randominc"), (4006, "interpolate"),
  (4007, "addpercent"), (4008, "setbit"), (4009, "clearbit"), (4010, "testbit"), (4011, "mod"),
  (4012, "pow"), (4013, "invpow"), (4014, "and"), (4015, "or"), (4100, "append_num"),
  (4101, "append"), (4106, "tostring"), (4107, "compare"), (4112, "append_char"),
  (4200, "oc_name"), (4208, "oc_param"), (10000, "ss_or"), (10001, "ss_and")]

end ClientScript.Opcode
